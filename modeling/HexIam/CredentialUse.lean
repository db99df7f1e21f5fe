import HexIam.GrantHistory
import HexIam.LateCalls
import HexIam.LogRules
import HexIam.Registration
import HexIam.RowHistory
import HexIam.RunRefinement

/-!
# Credentials that are presented too late

A code, a refresh token, an upstream state or an invitation is looked up by the
endpoint that it is presented to.  Whatever else runs between the statements
of that endpoint, a request that starts when the credential is not live is
honoured only if the credential is issued after that; and a credential that is
spent cannot be issued again before its row is deleted.
-/

namespace HexIam

open StatementTree CallPool GuardedRun ManagementApp RowHistory
open TokenCalls (TokenCall)

namespace CredentialUse

/-! ## Requests -/

/-- A request to one of the endpoints that a credential is presented to, or any
other program. -/
inductive ServiceCall : Type
  | token (call : TokenCall)
  | callback (readings : Readings) (request : CallbackRequest)
  | submit (readings : Readings) (request : SignupRequest)
  | api (readings : Readings) (request : SignupRequest)
  | other (program : ManagementApp Unit)

/-- What a request is answered with. -/
inductive ServiceAnswer : Type
  | token (response : TokenResponse)
  | flow (response : FlowResponse)
  | signup (answer : Answer (String × SignedToken))
  | other

/-- The program of a request. -/
def ServiceCall.program (deployment : Deployment) :
    ServiceCall → ManagementApp ServiceAnswer
  | .token call => do
      let response ← core (postToken deployment call.readings call.request)
      return .token response
  | .callback readings request => do
      let response ← core (federationCallback deployment readings request)
      return .flow response
  | .submit readings request => do
      let answer ← signupSubmit deployment .owner readings request
      return .signup answer
  | .api readings request => do
      let answer ← signupApi deployment .owner readings request
      return .signup answer
  | .other program => do
      program
      return .other

/-- Requests over one database.  Any statement may fail, and the clock of the
database advances. -/
def system (deployment : Deployment) :
    System Empty ServiceCall ManagementStmt ManagementStmt.Resp Exn ServiceAnswer
      World Nat where
  site _ := none
  program call := call.program deployment
  perform := manage deployment
  mayFail _ _ := true
  crash site _ := site.elim
  change seconds world := some { world with now := world.now + seconds }

abbrev ServicePool :=
  Pool ServiceCall ManagementStmt ManagementStmt.Resp Exn ServiceAnswer World
abbrev ServiceEvent := Event Empty ServiceCall Exn Nat

/-- The answer issues tokens, signs a browser in or registers a user. -/
def ServiceAnswer.Honours : ServiceAnswer → Prop
  | .token (.tokens _) => True
  | .flow (.consentPage ..) => True
  | .signup (.success _) => True
  | _ => False

/-! ## Credentials -/

/-- What may be presented once. -/
inductive Credential : Type
  | code (code : String)
  | refreshToken (jti : String)
  | transaction (providerId upstreamState : String)
  | invitation (id : String)
  deriving DecidableEq, Repr

/-- A signup presents a token that names the invitation. -/
def PresentsInvitation (deployment : Deployment) (readings : Readings)
    (request : SignupRequest) (id : String) : Prop :=
  filled request.invitationToken = true ∧ ∃ payload,
    decodeInvitation deployment request.invitationToken (readings.utcNow 0) =
      .ok payload ∧ payload.invitationId = some id

/-- The request presents the credential. -/
def Presents (deployment : Deployment) : ServiceCall → Credential → Prop
  | .token call, .code code =>
      (call.field "grant_type").isText "authorization_code" = true ∧
        call.field "code" = .text code
  | .token call, .refreshToken jti =>
      (call.field "grant_type").isText "refresh_token" = true ∧
        call.field "refresh_token" = .text jti
  | .callback _ request, .transaction providerId upstreamState =>
      request.providerId = providerId ∧ request.state = some upstreamState
  | .submit readings request, .invitation id =>
      PresentsInvitation deployment readings request id
  | .api readings request, .invitation id =>
      PresentsInvitation deployment readings request id
  | _, _ => False

/-- What a row says about its credential. -/
structure Status where
  spent : Bool
  expiresAt : Int
  deriving DecidableEq, Repr

def codeStatus (row : CodeRow) : Status :=
  ⟨row.used, row.expiresAt⟩

def refreshTokenStatus (row : RefreshTokenRow) : Status :=
  ⟨row.revoked, row.expiresAt⟩

def transactionStatus (row : TransactionRow) : Status :=
  ⟨row.consumedAt.isSome, row.expiresAt⟩

def invitationStatus (row : InvitationRow) : Status :=
  ⟨row.acceptedAt.isSome, row.expiresAt⟩

/-- The rows of a credential.  No table holds two of one credential, except that
transactions are told apart by their ids. -/
def Credential.rows (world : World) : Credential → List Status
  | .code value => (world.codes.select fun row => row.code = value).map
      codeStatus
  | .refreshToken jti => (world.refreshTokens.select fun row =>
      row.jti = jti).map refreshTokenStatus
  | .transaction providerId upstreamState => (world.transactions.select
      fun row => row.providerId = providerId &&
        row.upstreamState = upstreamState).map transactionStatus
  | .invitation id => (world.invitations.select fun row => row.id = id).map
      invitationStatus

/-- A row of the credential is neither spent nor expired. -/
def Live (world : World) (credential : Credential) : Prop :=
  ∃ status ∈ credential.rows world,
    status.spent = false ∧ world.now < status.expiresAt

/-- The credential is stored and spent. -/
def Spent (world : World) (credential : Credential) : Prop :=
  credential.rows world ≠ [] ∧
    ∀ status ∈ credential.rows world, status.spent = true

/-- The statement issues the credential. -/
def Issues (credential : Credential) (entry : Entry) : Prop :=
  match credential with
  | .code code => ∃ row : CodeRow, row.code = code ∧
      entry = ⟨.core (.code (.insert row)), .ok ()⟩
  | .refreshToken jti => ∃ row : RefreshTokenRow, row.jti = jti ∧
      entry = ⟨.core (.refreshToken (.insert row)), .ok ()⟩
  | .transaction providerId upstreamState => ∃ row : TransactionRow,
      row.providerId = providerId ∧ row.upstreamState = upstreamState ∧
        entry = ⟨.core (.transaction (.insert row)), .ok ()⟩
  | .invitation id => ∃ row : InvitationRow, row.id = id ∧
      entry = ⟨.invitation (.insert row), .ok ()⟩

/-- The statement may delete the row of a spent credential, with the client or
the provider of the row. -/
def Frees (credential : Credential) (entry : Entry) : Prop :=
  match credential with
  | .code _ => DeletesClients entry
  | .transaction .. => DeletesClients entry ∨ DeletesProviders entry
  | _ => False

/-- The statement has found the credential live. -/
def Finds (credential : Credential) (entry : Entry) : Prop :=
  match credential with
  | .code code => ∃ clientId redirectUri row,
      entry = ⟨.core (.code (.validate (some code) clientId redirectUri)),
        .ok (some row)⟩
  | .refreshToken jti => ∃ clientId row,
      entry = ⟨.core (.refreshToken (.validate (some jti) clientId)),
        .ok (some row)⟩
  | .transaction providerId upstreamState => ∃ row,
      entry = ⟨.core (.transaction (.byState providerId upstreamState)),
        .ok (some row)⟩
  | .invitation id => ∃ row,
      entry = ⟨.invitation (.pending (some id)), .ok (some row)⟩

/-! ## The life of a credential -/

section Life

variable {deployment : Deployment} {world : World} {credential : Credential}
variable {status : Status}

theorem mem_rows_code {code : String} :
    status ∈ Credential.rows world (.code code) ↔
      ∃ row ∈ world.codes, row.code = code ∧ codeStatus row = status := by
  simp only [Credential.rows, List.mem_map, KeyedTable.mem_select,
    decide_eq_true_eq, and_assoc]

theorem mem_rows_refreshToken {jti : String} :
    status ∈ Credential.rows world (.refreshToken jti) ↔
      ∃ row ∈ world.refreshTokens, row.jti = jti ∧ refreshTokenStatus row = status := by
  simp only [Credential.rows, List.mem_map, KeyedTable.mem_select,
    decide_eq_true_eq, and_assoc]

theorem mem_rows_transaction {providerId upstreamState : String} :
    status ∈ Credential.rows world (.transaction providerId upstreamState) ↔
      ∃ row ∈ world.transactions, row.providerId = providerId ∧
        row.upstreamState = upstreamState ∧ transactionStatus row = status := by
  simp only [Credential.rows, List.mem_map, KeyedTable.mem_select,
    Bool.and_eq_true, decide_eq_true_eq, and_assoc]

theorem mem_rows_invitation {id : String} :
    status ∈ Credential.rows world (.invitation id) ↔
      ∃ row ∈ world.invitations, row.id = id ∧ invitationStatus row = status := by
  simp only [Credential.rows, List.mem_map, KeyedTable.mem_select,
    decide_eq_true_eq, and_assoc]

/-- A row may have become spent, and has not changed otherwise. -/
def Ages (old status : Status) : Prop :=
  status = old ∨ status = { old with spent := true }

/-- After a statement every row of a credential is one from before, or the
statement has issued the credential. -/
theorem row_of_manage {stmt : ManagementStmt}
    (statusMem : status ∈ credential.rows (manage deployment stmt world).2) :
    (∃ old ∈ credential.rows world, Ages old status) ∨
      Issues credential ⟨stmt, (manage deployment stmt world).1⟩ := by
  have moved := @moved_manage deployment world stmt
  cases credential with
  | code code =>
      obtain ⟨row, rowMem, rfl, rfl⟩ := mem_rows_code.mp statusMem
      rcases moved.codes.origin row rowMem with
        ⟨old, oldMem, rfl | rfl⟩ | ⟨inserted, rfl, entryEq⟩
      · exact .inl ⟨_, mem_rows_code.mpr ⟨row, oldMem, rfl, rfl⟩, .inl rfl⟩
      · exact .inl ⟨_, mem_rows_code.mpr ⟨old, oldMem, rfl, rfl⟩, .inr rfl⟩
      · exact .inr ⟨inserted, rfl, entryEq⟩
  | refreshToken jti =>
      obtain ⟨row, rowMem, rfl, rfl⟩ := mem_rows_refreshToken.mp statusMem
      rcases moved.refreshTokens.origin row rowMem with
        ⟨old, oldMem, rfl | rfl⟩ | ⟨inserted, rfl, entryEq⟩
      · exact .inl ⟨_, mem_rows_refreshToken.mpr ⟨row, oldMem, rfl, rfl⟩,
          .inl rfl⟩
      · exact .inl ⟨_, mem_rows_refreshToken.mpr ⟨old, oldMem, rfl, rfl⟩,
          .inr rfl⟩
      · exact .inr ⟨inserted, rfl, entryEq⟩
  | transaction providerId upstreamState =>
      obtain ⟨row, rowMem, rfl, rfl, rfl⟩ := mem_rows_transaction.mp statusMem
      rcases moved.transactions.origin row rowMem with
        ⟨old, oldMem, rfl | rfl⟩ | ⟨⟨inserted, rfl, entryEq⟩, -⟩
      · exact .inl ⟨_, mem_rows_transaction.mpr ⟨row, oldMem, rfl, rfl, rfl⟩,
          .inl rfl⟩
      · exact .inl ⟨_, mem_rows_transaction.mpr ⟨old, oldMem, rfl, rfl, rfl⟩,
          .inr rfl⟩
      · exact .inr ⟨inserted, rfl, rfl, entryEq⟩
  | invitation id =>
      obtain ⟨row, rowMem, rfl, rfl⟩ := mem_rows_invitation.mp statusMem
      rcases moved.invitations.origin row rowMem with
        ⟨old, oldMem, rfl | rfl | rfl⟩ | ⟨inserted, rfl, entryEq⟩
      · exact .inl ⟨_, mem_rows_invitation.mpr ⟨row, oldMem, rfl, rfl⟩, .inl rfl⟩
      · exact .inl ⟨_, mem_rows_invitation.mpr ⟨old, oldMem, rfl, rfl⟩, .inr rfl⟩
      · exact .inl ⟨_, mem_rows_invitation.mpr ⟨old, oldMem, rfl, rfl⟩, .inl rfl⟩
      · exact .inr ⟨inserted, rfl, entryEq⟩

theorem spent_of_manage {stmt : ManagementStmt} (spent : Spent world credential)
    (kept : ¬ Frees credential ⟨stmt, (manage deployment stmt world).1⟩) :
    Spent (manage deployment stmt world).2 credential := by
  have moved := @moved_manage deployment world stmt
  obtain ⟨status, statusMem⟩ := List.exists_mem_of_ne_nil _ spent.1
  have isSpent := spent.2 status statusMem
  -- The row of the credential is still there, and no second row was inserted.
  suffices ∃ held ∈ credential.rows (manage deployment stmt world).2,
      ∀ other ∈ credential.rows (manage deployment stmt world).2,
        other.spent = true by
    obtain ⟨held, heldMem, all⟩ := this
    exact ⟨List.ne_nil_of_mem heldMem, all⟩
  cases credential with
  | code code =>
      obtain ⟨old, oldMem, rfl, rfl⟩ := mem_rows_code.mp statusMem
      obtain ⟨row, rowMem, rowEq⟩ := (moved.codes.fate old oldMem).resolve_right kept
      have sameCode : row.code = old.code := by rcases rowEq with rfl | rfl <;> rfl
      have rowSpent : row.used = true := by
        rcases rowEq with rfl | rfl
        · exact isSpent
        · rfl
      refine ⟨codeStatus row, mem_rows_code.mpr ⟨row, rowMem, sameCode, rfl⟩,
        fun other otherMem => ?_⟩
      obtain ⟨found, foundMem, foundCode, rfl⟩ := mem_rows_code.mp otherMem
      rw [KeyedTable.eq_of_key_eq foundMem rowMem
        (foundCode.trans sameCode.symm)]
      exact rowSpent
  | refreshToken jti =>
      obtain ⟨old, oldMem, rfl, rfl⟩ := mem_rows_refreshToken.mp statusMem
      obtain ⟨row, rowMem, rowEq⟩ :=
        (moved.refreshTokens.fate old oldMem).resolve_right id
      have sameJti : row.jti = old.jti := by rcases rowEq with rfl | rfl <;> rfl
      have rowSpent : row.revoked = true := by
        rcases rowEq with rfl | rfl
        · exact isSpent
        · rfl
      refine ⟨refreshTokenStatus row,
        mem_rows_refreshToken.mpr ⟨row, rowMem, sameJti, rfl⟩,
        fun other otherMem => ?_⟩
      obtain ⟨found, foundMem, foundJti, rfl⟩ :=
        mem_rows_refreshToken.mp otherMem
      rw [KeyedTable.eq_of_key_eq foundMem rowMem (foundJti.trans sameJti.symm)]
      exact rowSpent
  | transaction providerId upstreamState =>
      obtain ⟨old, oldMem, rfl, rfl, rfl⟩ := mem_rows_transaction.mp statusMem
      obtain ⟨row, rowMem, rowEq⟩ :=
        (moved.transactions.fate old oldMem).resolve_right kept
      have same : row.providerId = old.providerId ∧
          row.upstreamState = old.upstreamState := by
        rcases rowEq with rfl | rfl <;> exact ⟨rfl, rfl⟩
      refine ⟨transactionStatus row, mem_rows_transaction.mpr
        ⟨row, rowMem, same.1, same.2, rfl⟩, fun other otherMem => ?_⟩
      obtain ⟨found, foundMem, sameProvider, sameState, rfl⟩ :=
        mem_rows_transaction.mp otherMem
      rcases moved.transactions.origin found foundMem with
        ⟨before, beforeMem, foundEq⟩ | ⟨-, free⟩
      · have beforeSpent := spent.2 (transactionStatus before)
          (mem_rows_transaction.mpr ⟨before, beforeMem, by
            rcases foundEq with rfl | rfl <;>
              exact ⟨sameProvider, sameState, rfl⟩⟩)
        rcases foundEq with rfl | rfl
        · exact beforeSpent
        · rfl
      · exact absurd sameState.symm (free old oldMem sameProvider.symm)
  | invitation id =>
      obtain ⟨old, oldMem, rfl, rfl⟩ := mem_rows_invitation.mp statusMem
      have accepted : old.unaccepted ≠ true := by
        have isSome : old.acceptedAt.isSome = true := isSpent
        simpa [InvitationRow.unaccepted, Option.isSome_iff_ne_none] using isSome
      obtain ⟨row, rowMem, rowEq⟩ :=
        (moved.invitations.fate old oldMem).resolve_right accepted
      have sameId : row.id = old.id := by
        rcases rowEq with rfl | rfl | rfl <;> rfl
      have rowSpent : row.acceptedAt.isSome = true := by
        rcases rowEq with rfl | rfl | rfl
        · exact isSpent
        · rfl
        · exact isSpent
      refine ⟨invitationStatus row,
        mem_rows_invitation.mpr ⟨row, rowMem, sameId, rfl⟩,
        fun other otherMem => ?_⟩
      obtain ⟨found, foundMem, foundId, rfl⟩ := mem_rows_invitation.mp otherMem
      rw [KeyedTable.eq_of_key_eq foundMem rowMem (foundId.trans sameId.symm)]
      exact rowSpent

theorem live_of_finds {stmt : ManagementStmt}
    (finds : Finds credential ⟨stmt, (manage deployment stmt world).1⟩) :
    Live world credential := by
  cases credential with
  | code code =>
      obtain ⟨clientId, redirectUri, row, entryEq⟩ := finds
      obtain ⟨rfl, answered⟩ := Sigma.mk.inj entryEq
      obtain ⟨found, passes⟩ :=
        Option.filter_eq_some_iff.mp (Except.ok.inj (eq_of_heq answered))
      obtain ⟨rowMem, rowCode⟩ := KeyedTable.lookup_eq_some.mp found
      simp only [Bool.and_eq_true, Bool.not_eq_true', decide_eq_true_eq] at passes
      exact ⟨codeStatus row, mem_rows_code.mpr ⟨row, rowMem, rowCode, rfl⟩,
        passes.1.2, passes.2⟩
  | refreshToken jti =>
      obtain ⟨clientId, row, entryEq⟩ := finds
      obtain ⟨rfl, answered⟩ := Sigma.mk.inj entryEq
      obtain ⟨found, passes⟩ :=
        Option.filter_eq_some_iff.mp (Except.ok.inj (eq_of_heq answered))
      obtain ⟨rowMem, rowJti⟩ := KeyedTable.lookup_eq_some.mp found
      simp only [Bool.and_eq_true, Bool.not_eq_true', decide_eq_true_eq] at passes
      exact ⟨refreshTokenStatus row,
        mem_rows_refreshToken.mpr ⟨row, rowMem, rowJti, rfl⟩, passes.1.2,
        passes.2⟩
  | transaction providerId upstreamState =>
      obtain ⟨row, entryEq⟩ := finds
      obtain ⟨rfl, answered⟩ := Sigma.mk.inj entryEq
      have rowMem := List.mem_of_head? (Except.ok.inj (eq_of_heq answered))
      obtain ⟨rowMem, passes⟩ := KeyedTable.mem_select.mp rowMem
      simp only [Bool.and_eq_true, decide_eq_true_eq, Option.isNone_iff_eq_none]
        at passes
      exact ⟨transactionStatus row, mem_rows_transaction.mpr
        ⟨row, rowMem, passes.1.1.1, passes.1.1.2, rfl⟩,
        by simp [transactionStatus, passes.1.2], passes.2⟩
  | invitation id =>
      obtain ⟨row, entryEq⟩ := finds
      obtain ⟨rfl, answered⟩ := Sigma.mk.inj entryEq
      obtain ⟨found, passes⟩ :=
        Option.filter_eq_some_iff.mp (Except.ok.inj (eq_of_heq answered))
      obtain ⟨rowMem, rowId⟩ := KeyedTable.lookup_eq_some.mp found
      simp only [InvitationRow.pending, InvitationRow.unaccepted,
        Bool.and_eq_true, decide_eq_true_eq, Option.isNone_iff_eq_none] at passes
      exact ⟨invitationStatus row,
        mem_rows_invitation.mpr ⟨row, rowMem, rowId, rfl⟩,
        by simp [invitationStatus, passes.1], passes.2⟩

theorem not_finds_error {stmt : ManagementStmt} {error : Exn} :
    ¬ Finds credential ⟨stmt, .error error⟩ := by
  cases credential with
  | code code => rintro ⟨_, _, _, ⟨⟩⟩
  | refreshToken jti => rintro ⟨_, _, ⟨⟩⟩
  | transaction providerId upstreamState => rintro ⟨_, ⟨⟩⟩
  | invitation id => rintro ⟨_, ⟨⟩⟩

theorem gate_live (credential : Credential) :
    Gate (system deployment) (Live · credential) (Issues credential)
      (Finds credential) where
  perform stmt world live := by
    obtain ⟨status, statusMem, unspent, valid⟩ := live
    refine (row_of_manage statusMem).imp_left ?_
    rintro ⟨old, oldMem, aged⟩
    have now : (manage deployment stmt world).2.now = world.now :=
      (moved_manage stmt).now
    rcases aged with rfl | rfl
    · exact ⟨status, oldMem, unspent, now ▸ valid⟩
    · cases unspent
  crash site := site.elim
  change seconds world after changed live := by
    cases changed
    obtain ⟨status, statusMem, unspent, valid⟩ := live
    have sameRows : credential.rows { world with now := world.now + seconds } =
        credential.rows world := by
      cases credential <;> rfl
    refine ⟨status, sameRows ▸ statusMem, unspent, ?_⟩
    have later : world.now + seconds < status.expiresAt := valid
    omega
  answer stmt world finds := live_of_finds finds
  fail stmt error := not_finds_error

/-- A spent credential becomes usable only after its row is deleted. -/
theorem gate_spent (credential : Credential) :
    Gate (system deployment) (fun world => ¬ Spent world credential)
      (Frees credential) (Finds credential) where
  perform stmt world unspent := by
    by_contra neither
    obtain ⟨spent, kept⟩ := not_or.mp neither
    exact unspent (spent_of_manage (not_not.mp spent) kept)
  crash site := site.elim
  change seconds world after changed unspent spent := by
    cases changed
    refine unspent ?_
    cases credential <;> exact spent
  answer stmt world finds spent := by
    obtain ⟨status, statusMem, unspent, -⟩ := live_of_finds finds
    rw [spent.2 status statusMem] at unspent
    cases unspent
  fail stmt error := not_finds_error

end Life

/-! ## What the endpoints look up -/

section Programs

variable {deployment : Deployment} {credential : Credential}
variable {answers : (stmt : ManagementStmt) → Except Exn stmt.Resp → Prop}

/-- An honoured request has found its credential. -/
abbrev Found (credential : Credential) (log : List Entry)
    (result : Except Exn ServiceAnswer) : Prop :=
  Shows ServiceAnswer.Honours (Finds credential) log result

/-- The entry of a statement among those of the management endpoints. -/
def coreEntry (entry : LogEntry Stmt Stmt.Resp Exn) : Entry :=
  ⟨.core entry.1, entry.2⟩

/-- An honoured request has found its credential, as its own log shows. -/
abbrev FoundCore {α : Type} (credential : Credential) (answer : α → ServiceAnswer)
    (log : List (LogEntry Stmt Stmt.Resp Exn)) (result : Except Exn α) : Prop :=
  Shows (fun value => (answer value).Honours)
    (fun entry => Finds credential (coreEntry entry)) log result

/-- An endpoint of the login or token flow, by what its own log shows. -/
theorem obeys_core {α : Type} {program : App α} {answer : α → ServiceAnswer}
    (obeys : Obeys (fun _ _ => True) (fun _ _ => True)
      (FoundCore credential answer) program []) :
    Obeys (fun _ _ => True) answers (Found credential)
      (do
        let value ← core program
        return answer value) [] :=
  Obeys.shows_embed (fun _ _ => rfl) obeys

theorem isText_eq_true {value : PyValue} {text : String} :
    value.isText text = true ↔ value = .text text := by
  cases value <;> simp [PyValue.isText]

section Token

variable {call : TokenCall} {db : Connection} {readings : Readings}
variable {client : ClientRow} {clientId : PyValue}
variable {data : List (String × PyValue)}
variable {log : List (LogEntry Stmt Stmt.Resp Exn)}

theorem authorizationCodeGrant_finds {code : String}
    (presents : PyValue.get data "code" = .text code) :
    Obeys (fun _ _ => True) (fun _ _ => True)
      (FoundCore (.code code) ServiceAnswer.token)
      (authorizationCodeGrant deployment db readings client clientId data)
      log := by
  unfold authorizationCodeGrant validateAuthorizationCode
  dsimp only
  split
  · exact shows_of_not id
  simp only [StatementTree.bind_assoc]
  refine obeys_ofExcept_bind (fun boundCode codeEq => ?_) fun error _ =>
    shows_error error
  obtain rfl : some code = boundCode := by
    rw [presents] at codeEq
    exact Except.ok.inj codeEq
  refine obeys_ofExcept_bind (fun boundClient _ => ?_) fun error _ =>
    shows_error error
  refine obeys_ofExcept_bind (fun boundUri _ => ?_) fun error _ =>
    shows_error error
  refine obeys_ask_bind trivial (fun found _ => ?_) fun error _ =>
    shows_error error
  cases found with
  | none => exact shows_of_not id
  | some row =>
      exact Obeys.shows_of_mem _ List.mem_cons_self ⟨boundClient, boundUri, row, rfl⟩

theorem refreshTokenGrant_finds {jti : String}
    (presents : PyValue.get data "refresh_token" = .text jti) :
    Obeys (fun _ _ => True) (fun _ _ => True)
      (FoundCore (.refreshToken jti) ServiceAnswer.token)
      (refreshTokenGrant deployment db readings client clientId data) log := by
  unfold refreshTokenGrant validateRefreshToken
  dsimp only
  split
  · exact shows_of_not id
  simp only [StatementTree.bind_assoc]
  refine obeys_ofExcept_bind (fun bound boundEq => ?_) fun error _ =>
    shows_error error
  obtain rfl : some jti = bound := by
    rw [presents] at boundEq
    exact Except.ok.inj boundEq
  refine obeys_ofExcept_bind (fun boundClient _ => ?_) fun error _ =>
    shows_error error
  refine obeys_ask_bind trivial (fun found _ => ?_) fun error _ =>
    shows_error error
  cases found with
  | none => exact shows_of_not id
  | some row => exact Obeys.shows_of_mem _ List.mem_cons_self ⟨boundClient, row, rfl⟩

/-- A token request with a code or a refresh token looks it up. -/
theorem postToken_finds (presents : Presents deployment (.token call) credential) :
    Obeys (fun _ _ => True) (fun _ _ => True)
      (FoundCore credential ServiceAnswer.token)
      (postToken deployment call.readings call.request) [] := by
  unfold postToken tokenEndpoint
  refine Obeys.skip (fun db added => ?_) fun _ => shows_error
  refine obeys_ofExcept_bind (fun data dataEq => ?_) fun error _ =>
    shows_error error
  have field (name : String) : call.field name = PyValue.get data name :=
    GrantHistory.field_eq_get dataEq name
  refine Obeys.skip (fun found added => ?_) fun _ => shows_error
  cases found with
  | none => exact shows_of_not id
  | some client =>
      cases credential with
      | code code =>
          obtain ⟨asks, codeEq⟩ := presents
          rw [field, isText_eq_true] at asks
          simp only [grant, asks, PyValue.isText, decide_true, if_true]
          exact authorizationCodeGrant_finds (field _ ▸ codeEq)
      | refreshToken jti =>
          obtain ⟨asks, jtiEq⟩ := presents
          rw [field, isText_eq_true] at asks
          simp only [grant, asks, PyValue.isText]
          exact refreshTokenGrant_finds (field _ ▸ jtiEq)
      | transaction providerId upstreamState => exact presents.elim
      | invitation id => exact presents.elim

end Token

/-- A callback that signs a browser in looks its transaction up. -/
theorem federationCallback_finds {readings : Readings} {request : CallbackRequest}
    (presents : Presents deployment (.callback readings request) credential) :
    Obeys (fun _ _ => True) (fun _ _ => True)
      (FoundCore credential ServiceAnswer.flow)
      (federationCallback deployment readings request) [] := by
  cases credential with
  | transaction providerId upstreamState =>
      obtain ⟨rfl, stateEq⟩ := presents
      unfold federationCallback getFederationAuthTransactionByState
      split
      · exact shows_of_not id
      split
      · exact shows_of_not id
      rw [stateEq, Option.getD_some]
      refine obeys_ask_bind trivial (fun found _ => ?_) fun error _ =>
        shows_error error
      cases found with
      | none => exact shows_of_not id
      | some txn => exact Obeys.shows_of_mem _ List.mem_cons_self ⟨txn, rfl⟩
  | code code => exact presents.elim
  | refreshToken jti => exact presents.elim
  | invitation id => exact presents.elim

section Signup

variable {readings : Readings} {request : SignupRequest} {id : String}
variable {log : List Entry}

/-- The invitation of a signup has been found pending. -/
def FoundInvitation (id : String) (log : List Entry) : Prop :=
  ∃ entry ∈ log, Finds (.invitation id) entry

/-- A lookup that gives an invitation has found it pending. -/
def LooksUp (id : String) (log : List Entry)
    (result : Except Exn (Except Exn (Option InvitationRow))) : Prop :=
  ∀ invite, result = .ok (.ok (some invite)) → FoundInvitation id log

theorem signupSubject_finds {invitedEmail : Bool}
    (presents : PresentsInvitation deployment readings request id) :
    Obeys (fun _ _ => True) answers
      (fun log result => ∀ subject, result = .ok (.success subject) →
        FoundInvitation id log)
      (signupSubject deployment readings invitedEmail request) log := by
  obtain ⟨isFilled, payload, decoded, idEq⟩ := presents
  unfold signupSubject
  refine Obeys.skip (fun tenantId added => ?_) fun log error => by rintro _ ⟨⟩
  simp only [isFilled, if_true]
  refine Obeys.bind (?_ : Obeys _ _ (LooksUp id) _ _) ?_ ?_
  · refine Obeys.tryCatch (?_ : Obeys _ _ (LooksUp id) _ _) ?_ ?_
    · unfold signupInvitation lift
      rw [decoded, bind_ok, idEq]
      refine ⟨trivial, fun answer _ => ?_⟩
      cases answer with
      | error error => rintro _ ⟨⟩
      | ok found =>
          rintro invite found
          obtain rfl : _ = some invite := by simpa using found
          exact ⟨_, List.mem_cons_self, invite, rfl⟩
    · exact fun log value holds => holds
    · rintro log error - invite ⟨⟩
  · rintro log invite holds
    rcases invite with cause | _ | invite
    · rintro _ ⟨⟩
    · rintro _ ⟨⟩
    · rintro _ -
      exact holds invite rfl
  · rintro log error - _ ⟨⟩

theorem signupSubmit_finds
    (presents : PresentsInvitation deployment readings request id) :
    Obeys (fun _ _ => True) answers
      (fun log result => ∀ subject, result = .ok (.success subject) →
        FoundInvitation id log)
      (signupSubmit deployment .owner readings request) log := by
  unfold signupSubmit
  split
  · refine Obeys.skip (fun _ _ => ?_) fun log error => ?_ <;> rintro _ ⟨⟩
  split
  · refine Obeys.skip (fun _ _ => ?_) fun log error => ?_ <;> rintro _ ⟨⟩
  refine (signupSubject_finds presents).bind (fun log subject holds => ?_)
    fun log error _ => by rintro _ ⟨⟩
  cases subject with
  | failure status error message => rintro _ ⟨⟩
  | success subject =>
      obtain ⟨entry, entryMem, finds⟩ := holds subject rfl
      exact (obeys_of_mem _ entryMem finds).mono fun _ _ found _ _ => found

theorem signupApi_finds
    (presents : PresentsInvitation deployment readings request id) :
    Obeys (fun _ _ => True) answers
      (fun log result => ∀ subject, result = .ok (.success subject) →
        FoundInvitation id log)
      (signupApi deployment .owner readings request) log := by
  unfold signupApi
  refine (signupSubject_finds presents).bind (fun log subject holds => ?_)
    fun log error _ => by rintro _ ⟨⟩
  cases subject with
  | failure status error message => rintro _ ⟨⟩
  | success subject =>
      obtain ⟨entry, entryMem, finds⟩ := holds subject rfl
      exact (obeys_of_mem _ entryMem finds).mono fun _ _ found _ _ => found

/-- An endpoint whose answer is a signup's. -/
theorem obeys_signup {program : ManagementApp (Answer (String × SignedToken))}
    (obeys : Obeys (fun _ _ => True) answers
      (fun log result => ∀ subject, result = .ok (.success subject) →
        FoundInvitation id log) program []) :
    Obeys (fun _ _ => True) answers (Found (.invitation id))
      (do
        let answer ← program
        return ServiceAnswer.signup answer) [] := by
  refine obeys.bind ?_ fun log error _ => shows_error error
  rintro log answer holds result ⟨⟩ honours
  cases answer with
  | success subject => exact holds subject rfl
  | failure status error message => exact honours.elim

end Signup

/-- A request that presents a credential is honoured only after it has found
the credential. -/
theorem program_finds {call : ServiceCall}
    (presents : Presents deployment call credential) :
    Obeys (fun _ _ => True) answers (Found credential)
      (call.program deployment) [] := by
  cases call with
  | token call => exact obeys_core (postToken_finds presents)
  | callback readings request => exact obeys_core (federationCallback_finds presents)
  | submit readings request =>
      cases credential with
      | invitation id => exact obeys_signup (signupSubmit_finds presents)
      | _ => exact presents.elim
  | api readings request =>
      cases credential with
      | invitation id => exact obeys_signup (signupApi_finds presents)
      | _ => exact presents.elim
  | other program => cases credential <;> exact presents.elim

end Programs

/-! ## Runs -/

section Runs

variable {deployment : Deployment} {credential : Credential}

/-- The next statement of the run meets the condition. -/
def Performing (deployment : Deployment) (condition : Entry → Prop)
    (pool : ServicePool) (event : ServiceEvent) : Prop :=
  ∃ entry, condition entry ∧ Performs (system deployment) pool event entry

/-- Every request of the pool that was honoured has found what it presents. -/
def Finding (deployment : Deployment) (credential : Credential)
    (pool : ServicePool) : Prop :=
  Follows (system deployment) (fun _ _ _ => True)
    (fun request log result => Presents deployment request credential →
      Found credential log result) pool

/-- In every state of a run, a request that was honoured has found what it
presents. -/
theorem finds_of_honoured {world : World} {events : List ServiceEvent}
    {pool : ServicePool} {id : Nat}
    {call : Call ServiceCall ManagementStmt ManagementStmt.Resp Exn ServiceAnswer}
    {answer : ServiceAnswer}
    (runs : exec (step (system deployment)) (.init world) events = some pool)
    (holds : pool.Holds id call)
    (presents : Presents deployment call.request credential)
    (ended : call.rest = .done (.ok answer)) (honours : answer.Honours) :
    ∃ entry ∈ call.log, Finds credential entry := by
  have programs (request : ServiceCall) :
      Obeys (fun _ _ => True) (Answers (system deployment))
        (fun log result => Presents deployment request credential →
          Found credential log result) (request.program deployment) [] := by
    by_cases presented : Presents deployment request credential
    · exact (program_finds presented).mono fun _ _ found _ => found
    · exact obeys_any _ fun _ _ presents => absurd presents presented
  have follows : Finding deployment credential pool :=
    invariant (fun _ event _ kept stepEq => follows_step programs event kept stepEq)
      follows_init runs
  exact follows.ended holds ended presents answer rfl honours

/-- Among any other requests, with any failures and at any times: a request
that starts when the credential it presents is not live is honoured only if the
credential is issued after that start, and if the credential was spent, only
after its row was deleted with its client or provider.  A revoked refresh token
and an accepted invitation are never honoured again. -/
theorem issued_of_honoured {world : World} {before events : List ServiceEvent}
    {start final : ServicePool} {id : Nat}
    {call : Call ServiceCall ManagementStmt ManagementStmt.Resp Exn ServiceAnswer}
    {answer : ServiceAnswer}
    (reached : exec (step (system deployment)) (.init world) before = some start)
    (unused : start.calls id = none)
    (runs : exec (step (system deployment)) start events = some final)
    (holds : final.Holds id call)
    (presents : Presents deployment call.request credential)
    (ended : call.rest = .done (.ok answer)) (honours : answer.Honours)
    (notLive : ¬ Live start.world credential) :
    Reaches (step (system deployment))
        (Performing deployment (Issues credential)) start events ∧
      (Spent start.world credential → Reaches (step (system deployment))
        (Performing deployment (Frees credential)) start events) := by
  obtain ⟨entry, entryMem, finds⟩ := finds_of_honoured
    (exec_append_eq_some reached runs) holds presents ended honours
  exact ⟨(gate_live credential).reaches_of_uses unused notLive runs holds entryMem
      finds,
    fun spent => (gate_spent credential).reaches_of_uses unused (not_not.mpr spent)
      runs holds entryMem finds⟩

end Runs

/-! ## A code that is issued in time -/

/-- A client and a user of its tenant. -/
def oneClient : World where
  tenants := .single { id := "t" }
  users := .single ⟨"u", "t", "u@t", "pw", "U", "T", none, true, true, 0⟩
  clients :=
    .single ⟨"c", "t", "secret", "App", ["https://app/cb"], ["profile"], true⟩

/-- The client presents a code. -/
def redeem : ServiceCall :=
  .token {
    readings := ⟨fun _ => 0, fun _ => 0, fun _ => ""⟩
    request := {
      tenantHeader := some "t"
      contentType := "application/x-www-form-urlencoded"
      form := [("grant_type", .text "authorization_code"),
        ("client_id", .text "c"), ("client_secret", .text "secret"),
        ("code", .text "code"), ("redirect_uri", .text "https://app/cb")] } }

/-- The code is stored. -/
def issue : ServiceCall :=
  .other (core (storeAuthorizationCode "1" 0 "code" "c" "u" "t" "https://app/cb"
    "profile" none none none))

/-- The request starts before the code is stored and is answered with tokens. -/
theorem code_issued_in_time :
    Reaches (step (system (.plain [])))
      (Performing (.plain []) (Issues (.code "code"))) (.init oneClient)
      [.start 0 redeem, .start 1 issue, .advance 1, .advance 0, .advance 0,
        .advance 0, .advance 0, .advance 0, .advance 0] := by
  have runs : exec (step (system (.plain []))) (.init oneClient)
      [.start 0 redeem, .start 1 issue, .advance 1, .advance 0, .advance 0,
        .advance 0, .advance 0, .advance 0, .advance 0] = some _ := rfl
  have notLive : ¬ Live oneClient (.code "code") := by
    rintro ⟨status, statusMem, -⟩
    exact List.not_mem_nil statusMem
  have reached : exec (step (system (.plain []))) (.init oneClient) [] =
      some (.init oneClient) := rfl
  exact (@issued_of_honoured _ (.code "code") _ _ _ _ _ 0 _ _ reached rfl runs rfl
    ⟨rfl, rfl⟩ rfl trivial notLive).1

end CredentialUse

end HexIam
