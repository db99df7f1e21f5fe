import HexIam.Footprint
import HexIam.LateCalls
import HexIam.LogRules
import HexIam.Management
import HexIam.TokenCalls

/-!
# A rotated client secret

`rotate_client_secret` promises that the old secret is immediately invalidated.
Registrations, rotations and requests that present a secret run at the same
time here.  Once a rotation has answered, a secret that its new hash does not
verify serves no request that starts later, unless another registration or
rotation of the client drew that very secret since the rotation started.
-/

namespace HexIam

open StatementTree CallPool GuardedRun ManagementApp
open TokenCalls (TokenCall)

namespace SecretRotation

/-! ## Requests -/

/-- The statement writes the secret of a client. -/
def WritesSecret : ManagementStmt → Prop
  | .client (.insert _) => True
  | .client (.rotateSecret ..) => True
  | _ => False

/-- A program that leaves the secrets of clients alone. -/
structure OtherProgram where
  program : ManagementApp Unit
  leaves : Within (fun stmt => ¬ WritesSecret stmt) program

/-- A request to an endpoint that writes or checks client secrets, or any other
program. -/
inductive ClientCall : Type
  | token (call : TokenCall)
  | introspect (worker : Nat) (readings : Readings) (request : TokenRequest)
  | register (readings : Readings) (principal : Principal)
      (request : ClientCreateRequest)
  | rotate (readings : Readings) (principal : Principal) (clientId : String)
  | update (principal : Principal) (clientId : String)
      (updates : ClientUpdateRequest)
  | delete (principal : Principal) (clientId : String)
  | other (program : OtherProgram)

/-- What a request is answered with. -/
inductive ClientAnswer : Type
  | token (response : TokenResponse)
  | introspection (response : IntrospectResponse)
  | registered (client : ClientRow × String)
  | rotated (answer : Answer String)
  | updated (answer : Answer ClientRow)
  | deleted (answer : Answer Unit)
  | other

/-- The program of a request. -/
def ClientCall.program (deployment : Deployment) :
    ClientCall → ManagementApp ClientAnswer
  | .token call => do
      let response ← core (postToken deployment call.readings call.request)
      return .token response
  | .introspect worker readings request => do
      let response ← core (HexIam.introspect deployment worker readings request)
      return .introspection response
  | .register readings principal request => do
      let client ← registerClient deployment readings principal request
      return .registered client
  | .rotate readings principal clientId => do
      let answer ← rotateClientSecret deployment readings principal clientId
      return .rotated answer
  | .update principal clientId updates => do
      let answer ← updateClient principal clientId updates
      return .updated answer
  | .delete principal clientId => do
      let answer ← deleteClient principal clientId
      return .deleted answer
  | .other outside => do
      outside.program
      return .other

/-- Requests over one database.  Any statement may fail, and the clock of the
database advances. -/
def system (deployment : Deployment) :
    System Empty ClientCall ManagementStmt ManagementStmt.Resp Exn ClientAnswer
      World Nat where
  site _ := none
  program call := call.program deployment
  perform := manage deployment
  mayFail _ _ := true
  crash site _ := site.elim
  change seconds world := some { world with now := world.now + seconds }

abbrev ClientPool :=
  Pool ClientCall ManagementStmt ManagementStmt.Resp Exn ClientAnswer World
abbrev ClientEvent := Event Empty ClientCall Exn Nat
abbrev ClientState :=
  Call ClientCall ManagementStmt ManagementStmt.Resp Exn ClientAnswer
abbrev Entry := LogEntry ManagementStmt ManagementStmt.Resp Exn

/-- The answer carries tokens or says that a token is active. -/
def ClientAnswer.Serves : ClientAnswer → Prop
  | .token (.tokens _) => True
  | .introspection response => response.active = true
  | _ => False

/-! ## Secrets -/

/-- The credentials of a request are the client and the secret. -/
def Carries (deployment : Deployment) (request : TokenRequest)
    (clientId secret : String) : Prop :=
  ∃ data, request.data = .ok data ∧
    extractClientCredentials deployment request.authorization data =
      (.text clientId, .text secret)

/-- The request presents the secret for the client. -/
def Presents (deployment : Deployment) (clientId secret : String) :
    ClientCall → Prop
  | .token call => Carries deployment call.request clientId secret
  | .introspect _ _ request => Carries deployment request clientId secret
  | _ => False

/-- The stored hash verifies the secret. -/
def Verifies (deployment : Deployment) (secret hash : String) : Prop :=
  deployment.verifyPassword secret hash = .ok true

/-- The stored hash of the client verifies the secret. -/
def Accepted (deployment : Deployment) (clientId secret : String)
    (world : World) : Prop :=
  ∃ row ∈ world.clients, row.id = clientId ∧
    Verifies deployment secret row.clientSecret

/-- The statement stores a hash that verifies the secret. -/
def Stores (deployment : Deployment) (clientId secret : String) :
    ManagementStmt → Prop
  | .client (.insert row) =>
      row.id = clientId ∧ Verifies deployment secret row.clientSecret
  | .client (.rotateSecret id _ hash) =>
      id = clientId ∧ Verifies deployment secret hash
  | _ => False

/-- The request registers the client, or rotates its secret, with a secret whose
hash verifies the given one. -/
def Draws (deployment : Deployment) (clientId secret : String) :
    ClientCall → Prop
  | .register readings _ _ =>
      "client_" ++ readings.secret 0 = clientId ∧
        Verifies deployment secret (deployment.hashPassword (readings.secret 1))
  | .rotate readings _ id =>
      id = clientId ∧
        Verifies deployment secret (deployment.hashPassword (readings.secret 0))
  | _ => False

/-- The next event stores a hash that verifies the secret, for a request that
has drawn it. -/
def Storing (deployment : Deployment) (clientId secret : String)
    (pool : ClientPool) (event : ClientEvent) : Prop :=
  ∃ id call stmt next, event = .advance id ∧ pool.Holds id call ∧
    call.rest = .perform stmt next ∧ Stores deployment clientId secret stmt ∧
    Draws deployment clientId secret call.request

/-- The statement has read a hash of the client that verifies the secret. -/
def Reads (deployment : Deployment) (clientId secret : String)
    (entry : Entry) : Prop :=
  ∃ row : ClientRow, entry = ⟨.core (.client (.active (some clientId))),
    .ok (some row)⟩ ∧ Verifies deployment secret row.clientSecret

/-! ## What a statement does to the secrets -/

section Statements

variable {deployment : Deployment} {world : World} {stmt : ManagementStmt}
variable {clientId secret : String}

/-- The hash of a client after a statement. -/
def hashAfter (entry : Entry) (row : ClientRow) : String :=
  match entry with
  | ⟨.client (.rotateSecret id tenantId hash), .ok _⟩ =>
      if row.isOne id tenantId then hash else row.clientSecret
  | _ => row.clientSecret

/-- The statements of the login and token endpoints leave the clients as they
are. -/
theorem clients_of_core (stmt : Stmt) :
    (perform deployment stmt world).2.clients = world.clients := by
  cases stmt with
  | redis stmt =>
      obtain ⟨stream, workers, same⟩ := perform_redis deployment stmt world
      rw [same]
  | _ => rfl

theorem clients_of_provider (stmt : ProviderUpdateStmt) :
    (stmt.perform world).2.clients = world.clients := by
  cases stmt with
  | delete tenantId id => rfl
  | insert inserted =>
      simp only [ProviderUpdateStmt.perform]
      split <;> rfl
  | update tenantId id updated =>
      simp only [ProviderUpdateStmt.perform]
      split
      · rfl
      · split <;> rfl

/-- Where a client comes from after a statement that administers clients. -/
theorem client_of_clientStmt {row : ClientRow} (stmt : ClientUpdateStmt)
    (rowMem : row ∈ (stmt.perform world).2.clients) :
    (∃ old ∈ world.clients, row.id = old.id ∧ row.tenantId = old.tenantId ∧
      row.clientSecret = hashAfter ⟨.client stmt, (stmt.perform world).1⟩ old) ∨
    ∃ inserted : ClientRow, stmt = .insert inserted ∧
      row = { inserted with isActive := true } := by
  cases stmt with
  | byId id tenantId => exact .inl ⟨row, rowMem, rfl, rfl, rfl⟩
  | delete id tenantId =>
      exact .inl ⟨row, (KeyedTable.mem_delete.mp rowMem).1, rfl, rfl, rfl⟩
  | insert inserted =>
      simp only [ClientUpdateStmt.perform] at rowMem
      split at rowMem
      case h_2 => exact .inl ⟨row, rowMem, rfl, rfl, rfl⟩
      case h_1 clients stored =>
        simp only [require_bind_eq_ok] at stored
        obtain ⟨-, -, stored⟩ := stored
        split at stored
        case h_2 => cases stored
        case h_1 found =>
          cases stored
          rcases (KeyedTable.mem_of_insert found).mp rowMem with before | rowEq
          · exact .inl ⟨row, before, rfl, rfl, rfl⟩
          · exact .inr ⟨inserted, rfl, rowEq⟩
  | update id tenantId name redirectUris scopes =>
      simp only [ClientUpdateStmt.perform] at rowMem
      split at rowMem
      case isFalse => exact .inl ⟨row, rowMem, rfl, rfl, rfl⟩
      case isTrue =>
        obtain ⟨old, oldMem, rfl⟩ := (KeyedTable.mem_update
          (ClientRow.set_id name redirectUris scopes)).mp rowMem
        refine .inl ⟨old, oldMem, ?_⟩
        split <;> exact ⟨rfl, rfl, rfl⟩
  | rotateSecret id tenantId hash =>
      simp only [ClientUpdateStmt.perform] at rowMem ⊢
      split at rowMem
      case isFalse long =>
        rw [if_neg long]
        exact .inl ⟨row, rowMem, rfl, rfl, rfl⟩
      case isTrue short =>
        rw [if_pos short]
        obtain ⟨old, oldMem, rfl⟩ :=
          (KeyedTable.mem_update (ClientRow.setSecret_id hash)).mp rowMem
        refine .inl ⟨old, oldMem, ?_⟩
        simp only [hashAfter]
        split <;> exact ⟨rfl, rfl, rfl⟩

/-- A client after a statement is one from before, perhaps with a new hash, or
one that the statement registers. -/
theorem client_of_manage {row : ClientRow}
    (rowMem : row ∈ (manage deployment stmt world).2.clients) :
    (∃ old ∈ world.clients, row.id = old.id ∧ row.tenantId = old.tenantId ∧
      row.clientSecret =
        hashAfter ⟨stmt, (manage deployment stmt world).1⟩ old) ∨
    ∃ inserted : ClientRow, stmt = .client (.insert inserted) ∧
      row = { inserted with isActive := true } := by
  cases stmt with
  | client stmt =>
      refine (client_of_clientStmt stmt rowMem).imp_right ?_
      rintro ⟨inserted, rfl, rowEq⟩
      exact ⟨inserted, rfl, rowEq⟩
  | core stmt => exact .inl ⟨row, clients_of_core stmt ▸ rowMem, rfl, rfl, rfl⟩
  | provider stmt =>
      exact .inl ⟨row, clients_of_provider stmt ▸ rowMem, rfl, rfl, rfl⟩
  | _ => exact .inl ⟨row, rowMem, rfl, rfl, rfl⟩

theorem verifies_before {row : ClientRow}
    (rowMem : row ∈ (manage deployment stmt world).2.clients)
    (isClient : row.id = clientId)
    (verifies : Verifies deployment secret row.clientSecret)
    (stores : ¬ Stores deployment clientId secret stmt) :
    ∃ old ∈ world.clients, old.id = clientId ∧ old.tenantId = row.tenantId ∧
      Verifies deployment secret old.clientSecret ∧
      row.clientSecret =
        hashAfter ⟨stmt, (manage deployment stmt world).1⟩ old := by
  rcases client_of_manage rowMem with
    ⟨old, oldMem, sameId, sameTenant, hashEq⟩ | ⟨inserted, rfl, rfl⟩
  · have isOld : old.id = clientId := sameId.symm.trans isClient
    refine ⟨old, oldMem, isOld, sameTenant.symm, ?_, hashEq⟩
    rw [hashEq] at verifies
    unfold hashAfter at verifies
    split at verifies
    case h_2 => exact verifies
    case h_1 id tenantId hash value entryEq =>
      split at verifies
      case isFalse => exact verifies
      case isTrue isOne =>
        obtain ⟨rfl, -⟩ := Sigma.mk.inj entryEq
        simp only [ClientRow.isOne, Bool.and_eq_true, decide_eq_true_eq] at isOne
        exact absurd ⟨isOne.1.symm.trans isOld, verifies⟩ stores
  · exact absurd ⟨isClient, verifies⟩ stores

theorem gate_accepted (clientId secret : String) :
    Gate (system deployment) (Accepted deployment clientId secret)
      (fun entry => Stores deployment clientId secret entry.1)
      (Reads deployment clientId secret) where
  perform stmt world accepted := by
    obtain ⟨row, rowMem, isClient, verifies⟩ := accepted
    by_cases stores : Stores deployment clientId secret stmt
    · exact .inr stores
    · obtain ⟨old, oldMem, isOld, -, oldVerifies, -⟩ :=
        verifies_before rowMem isClient verifies stores
      exact .inl ⟨old, oldMem, isOld, oldVerifies⟩
  crash site := site.elim
  change seconds world after changed accepted := by
    cases changed
    exact accepted
  answer stmt world reads := by
    obtain ⟨row, entryEq, verifies⟩ := reads
    obtain ⟨rfl, answered⟩ := Sigma.mk.inj entryEq
    obtain ⟨found, -⟩ :=
      Option.filter_eq_some_iff.mp (Except.ok.inj (eq_of_heq answered))
    obtain ⟨rowMem, rowId⟩ := KeyedTable.lookup_eq_some.mp found
    exact ⟨row, rowMem, rowId, verifies⟩
  fail stmt error := by
    rintro ⟨row, ⟨⟩, -⟩

end Statements

/-! ## What the requests do -/

section Programs

variable {deployment : Deployment} {clientId secret : String}
variable {answers : (stmt : ManagementStmt) → Except Exn stmt.Resp → Prop}

/-- The rotation has read the client of its tenant. -/
def HasRead (clientId tenantId : String) (log : List Entry) : Prop :=
  ∃ row, (⟨.client (.byId clientId tenantId), .ok (some row)⟩ : Entry) ∈ log

/-- The rotation has stored the hash. -/
def HasStored (clientId tenantId hash : String) (log : List Entry) : Prop :=
  (⟨.client (.rotateSecret clientId tenantId hash), .ok ()⟩ : Entry) ∈ log

/-- A request stores only hashes of the secret that it draws, and a rotation
reads the client first. -/
structure MayPerform (deployment : Deployment) (request : ClientCall)
    (log : List Entry) (stmt : ManagementStmt) : Prop where
  draws : ∀ clientId secret, Stores deployment clientId secret stmt →
    Draws deployment clientId secret request
  reads : ∀ clientId tenantId hash,
    stmt = .client (.rotateSecret clientId tenantId hash) →
      HasRead clientId tenantId log

theorem mayPerform_of_leaves {request : ClientCall} {log : List Entry}
    {stmt : ManagementStmt} (leaves : ¬ WritesSecret stmt) :
    MayPerform deployment request log stmt where
  draws clientId secret stores := by
    refine absurd ?_ leaves
    unfold Stores at stores
    split at stores
    · trivial
    · trivial
    · exact stores.elim
  reads clientId tenantId hash stmtEq := by
    subst stmtEq
    exact absurd trivial leaves

/-- A request that is served has read a hash that verifies the secret it
presents, and a rotation that returns a secret has stored its hash. -/
def Keeps (deployment : Deployment) (request : ClientCall) (log : List Entry)
    (result : Except Exn ClientAnswer) : Prop :=
  (∀ clientId secret, filled secret = true →
    Presents deployment clientId secret request →
    Shows ClientAnswer.Serves (Reads deployment clientId secret) log result) ∧
  ∀ readings principal clientId fresh,
    request = .rotate readings principal clientId →
      result = .ok (.rotated (.success fresh)) →
        fresh = readings.secret 0 ∧ HasStored clientId principal.tenantId
          (deployment.hashPassword fresh) log

theorem obeys_of_within {request : ClientCall}
    {program : ManagementApp ClientAnswer}
    (presentsNothing : ∀ clientId secret,
      ¬ Presents deployment clientId secret request)
    (noRotation : ∀ readings principal clientId,
      request ≠ .rotate readings principal clientId)
    (leaves : Within (fun stmt => ¬ WritesSecret stmt) program) :
    Obeys (MayPerform deployment request) answers (Keeps deployment request)
      program [] := by
  refine (leaves.obeys (fun log stmt stays => mayPerform_of_leaves stays) []).mono ?_
  rintro log result -
  exact ⟨fun clientId secret _ presents => absurd presents (presentsNothing _ _),
    fun readings principal clientId _ rotates => absurd rotates (noRotation _ _ _)⟩

theorem within_core {α : Type} (program : App α) :
    Within (fun stmt => ¬ WritesSecret stmt) (core program) :=
  Within.embed ((within_any program).mono fun _ _ writes => writes)

theorem carries_unique {request : TokenRequest} {otherId other : String}
    (carries : Carries deployment request otherId other)
    (alsoCarries : Carries deployment request clientId secret) :
    otherId = clientId ∧ other = secret := by
  obtain ⟨data, dataEq, credentials⟩ := carries
  obtain ⟨same, sameEq, alsoCredentials⟩ := alsoCarries
  cases dataEq.symm.trans sameEq
  cases credentials.symm.trans alsoCredentials
  exact ⟨rfl, rfl⟩

theorem presents_unique {request : ClientCall} {otherId other : String}
    (presents : Presents deployment otherId other request)
    (alsoPresents : Presents deployment clientId secret request) :
    otherId = clientId ∧ other = secret := by
  cases request with
  | token call => exact carries_unique presents alsoPresents
  | introspect worker readings request =>
      exact carries_unique presents alsoPresents
  | _ => exact presents.elim

/-- A request whose client is checked first. -/
theorem obeys_of_shows {request : ClientCall} {α : Type} {program : App α}
    {part : α → ClientAnswer}
    (noRotation : ∀ readings principal clientId,
      request ≠ .rotate readings principal clientId)
    (shows : ∀ clientId secret, filled secret = true →
      Presents deployment clientId secret request →
        Obeys (fun _ _ => True) (fun _ _ => True)
          (Shows (fun value => (part value).Serves) fun entry =>
            Reads deployment clientId secret ⟨.core entry.1, entry.2⟩) program []) :
    Obeys (MayPerform deployment request) answers (Keeps deployment request)
      (do
        let value ← core program
        return part value) [] := by
  have leaves : Within (fun stmt => ¬ WritesSecret stmt) (do
      let value ← core program
      return part value) :=
    (within_core program).bind fun _ => within_done
  refine Obeys.within leaves (fun log stmt stays => mayPerform_of_leaves stays) ?_
  by_cases presented : ∃ clientId secret, filled secret = true ∧
      Presents deployment clientId secret request
  · obtain ⟨clientId, secret, isFilled, presents⟩ := presented
    refine (Obeys.shows_embed (fun _ _ => rfl)
      (shows clientId secret isFilled presents)).mono fun log result found => ?_
    refine ⟨fun otherId other _ alsoPresents => ?_,
      fun readings principal clientId _ rotates => absurd rotates (noRotation _ _ _)⟩
    obtain ⟨rfl, rfl⟩ := presents_unique alsoPresents presents
    exact found
  · refine obeys_any _ fun log result => ⟨fun clientId secret isFilled presents => ?_,
      fun readings principal clientId _ rotates => absurd rotates (noRotation _ _ _)⟩
    exact absurd ⟨clientId, secret, isFilled, presents⟩ presented

/-- What follows `validate_client` counts only after the hash was read, if
nothing counts for a client that is refused. -/
theorem obeys_validateClient {α : Type} {continuation : Option ClientRow → App α}
    {counts : α → Prop} {log : List (LogEntry Stmt Stmt.Resp Exn)}
    (isFilled : filled secret = true)
    (refuses : ∃ value, continuation none = pure value ∧ ¬ counts value) :
    Obeys (fun _ _ => True) (fun _ _ => True)
      (Shows counts fun entry => Reads deployment clientId secret
        ⟨.core entry.1, entry.2⟩)
      (validateClient deployment (.text clientId) (.text secret) >>= continuation)
      log := by
  obtain ⟨value, refusal, uncounted⟩ := refuses
  unfold validateClient
  simp only [StatementTree.bind_assoc]
  refine obeys_ofExcept_bind (fun id idEq => ?_) fun error _ => shows_error error
  obtain rfl : some clientId = id := Except.ok.inj idEq
  refine obeys_ask_bind trivial (fun found _ => ?_) fun error _ => shows_error error
  cases found with
  | none =>
      rw [pure_eq, bind_ok, refusal]
      exact shows_of_not uncounted
  | some row =>
      have truthy : (PyValue.text secret).truthy = true := isFilled
      simp only [truthy, if_true, StatementTree.bind_assoc]
      refine obeys_ofExcept_bind (fun verified verifiedEq => ?_) fun error _ =>
        shows_error error
      cases verified with
      | true => exact Obeys.shows_of_mem _ List.mem_cons_self ⟨row, rfl, verifiedEq⟩
      | false =>
          simp only [pure_eq, bind_ok, Bool.false_eq_true, if_false, refusal]
          exact shows_of_not uncounted

theorem postToken_reads {readings : Readings} {request : TokenRequest}
    (isFilled : filled secret = true) (carries : Carries deployment request clientId secret) :
    Obeys (fun _ _ => True) (fun _ _ => True)
      (Shows (fun response => (ClientAnswer.token response).Serves) fun entry =>
        Reads deployment clientId secret ⟨.core entry.1, entry.2⟩)
      (postToken deployment readings request) [] := by
  obtain ⟨data, dataEq, credentials⟩ := carries
  unfold postToken tokenEndpoint
  refine Obeys.skip (fun db added => ?_) fun _ => shows_error
  refine obeys_ofExcept_bind (fun found foundEq => ?_) fun error _ =>
    shows_error error
  cases dataEq.symm.trans foundEq
  simp only [credentials]
  exact obeys_validateClient isFilled ⟨_, rfl, id⟩

theorem introspect_reads {worker : Nat} {readings : Readings}
    {request : TokenRequest} (isFilled : filled secret = true)
    (carries : Carries deployment request clientId secret) :
    Obeys (fun _ _ => True) (fun _ _ => True)
      (Shows (fun response => (ClientAnswer.introspection response).Serves)
        fun entry => Reads deployment clientId secret ⟨.core entry.1, entry.2⟩)
      (introspect deployment worker readings request) [] := by
  obtain ⟨data, dataEq, credentials⟩ := carries
  unfold introspect
  refine obeys_ofExcept_bind (fun found foundEq => ?_) fun error _ =>
    shows_error error
  cases dataEq.symm.trans foundEq
  simp only [credentials]
  split
  · exact shows_of_not Bool.false_ne_true
  · exact obeys_validateClient isFilled ⟨_, rfl, Bool.false_ne_true⟩

/-- The only hash that `register_client` stores is that of its secret. -/
theorem register_keeps {readings : Readings} {principal : Principal}
    {request : ClientCreateRequest} :
    Obeys (MayPerform deployment (.register readings principal request)) answers
      (Keeps deployment (.register readings principal request))
      ((ClientCall.register readings principal request).program deployment) [] := by
  refine ⟨⟨fun clientId secret stores => stores, fun _ _ _ isRotation => ?_⟩,
    fun answer _ => ?_⟩
  · cases isRotation
  · have kept (result : Except Exn ClientAnswer) (log : List Entry) :
        Keeps deployment (.register readings principal request) log result :=
      ⟨fun _ _ _ presents => presents.elim, fun _ _ _ _ isRotation => by
        cases isRotation⟩
    cases answer <;> exact kept _ _

/-- `rotate_client_secret` reads the client before it stores the hash of its
secret, and returns the secret after that. -/
theorem rotate_keeps {readings : Readings} {principal : Principal}
    {clientId : String} :
    Obeys (MayPerform deployment (.rotate readings principal clientId)) answers
      (Keeps deployment (.rotate readings principal clientId))
      ((ClientCall.rotate readings principal clientId).program deployment) [] := by
  have refused {result : Except Exn ClientAnswer} {log : List Entry}
      (noSecret : ∀ fresh, result ≠ .ok (.rotated (.success fresh))) :
      Keeps deployment (.rotate readings principal clientId) log result :=
    ⟨fun _ _ _ presents => presents.elim, fun _ _ _ fresh _ resultEq =>
      absurd resultEq (noSecret fresh)⟩
  refine ⟨mayPerform_of_leaves id, fun answer _ => ?_⟩
  rcases answer with error | _ | row
  · exact refused (by rintro fresh ⟨⟩)
  · exact refused (by rintro fresh ⟨⟩)
  refine ⟨⟨fun otherId secret stores => stores, ?_⟩, fun answer _ => ?_⟩
  · rintro otherId tenantId hash ⟨⟩
    exact ⟨row, List.mem_cons_self⟩
  cases answer with
  | error error => exact refused (by rintro fresh ⟨⟩)
  | ok stored =>
      refine ⟨fun _ _ _ presents => presents.elim, ?_⟩
      rintro _ _ _ fresh ⟨⟩ ⟨⟩
      exact ⟨rfl, List.mem_cons_self⟩

theorem program_keeps (request : ClientCall) :
    Obeys (MayPerform deployment request) answers (Keeps deployment request)
      (request.program deployment) [] := by
  cases request with
  | token call =>
      exact obeys_of_shows (fun _ _ _ isRotation => by cases isRotation)
        fun clientId secret isFilled carries => postToken_reads isFilled carries
  | introspect worker readings request =>
      exact obeys_of_shows (fun _ _ _ isRotation => by cases isRotation)
        fun clientId secret isFilled carries => introspect_reads isFilled carries
  | register readings principal request => exact register_keeps
  | rotate readings principal clientId => exact rotate_keeps
  | update principal clientId updates =>
      refine obeys_of_within (fun _ _ => id)
        (fun _ _ _ isRotation => by cases isRotation) ?_
      refine Within.bind ?_ fun _ => within_done
      refine ⟨id, fun answer => ?_⟩
      rcases answer with error | _ | row
      · trivial
      · trivial
      · exact ⟨id, fun answer => by cases answer <;> trivial⟩
  | delete principal clientId =>
      refine obeys_of_within (fun _ _ => id)
        (fun _ _ _ isRotation => by cases isRotation) ?_
      exact ⟨id, fun answer => by cases answer <;> trivial⟩
  | other outside =>
      refine obeys_of_within (fun _ _ => id)
        (fun _ _ _ isRotation => by cases isRotation) ?_
      exact outside.leaves.bind fun _ => within_done

end Programs

/-! ## Runs -/

section Runs

variable {deployment : Deployment} {clientId secret : String}

/-- Every request of the pool keeps to what it may perform. -/
abbrev Following (deployment : Deployment) (pool : ClientPool) : Prop :=
  Follows (system deployment) (MayPerform deployment) (Keeps deployment) pool

theorem following_step (pool : ClientPool) (event : ClientEvent)
    (next : ClientPool) (follows : Following deployment pool)
    (stepEq : step (system deployment) pool event = some next) :
    Following deployment next :=
  follows_step (fun request => program_keeps request) event follows stepEq

/-- A statement of the run that stores a hash does so for a request that drew
the secret. -/
theorem storing_of_stores {pool : ClientPool} {id : Nat} {call : ClientState}
    {stmt : ManagementStmt}
    {next : Except Exn stmt.Resp →
      StatementTree ManagementStmt ManagementStmt.Resp Exn ClientAnswer}
    (follows : Following deployment pool) (holds : pool.Holds id call)
    (restEq : call.rest = .perform stmt next)
    (stores : Stores deployment clientId secret stmt) :
    Storing deployment clientId secret pool (.advance id) :=
  ⟨id, call, stmt, next, rfl, holds, restEq, stores,
    (follows.allowed holds restEq).draws clientId secret stores⟩

section Rotation

variable {rotation : Nat} {readings : Readings} {principal : Principal}

/-- Once the rotation has read the client, no client of another tenant has a
hash that verifies the secret, and once it has stored its hash, no client has.
-/
structure Replaced (deployment : Deployment) (rotation : Nat)
    (readings : Readings) (principal : Principal) (clientId secret : String)
    (pool : ClientPool) : Prop where
  read : ∀ call, pool.Holds rotation call →
    HasRead clientId principal.tenantId call.log →
      ∀ row ∈ pool.world.clients, row.id = clientId →
        Verifies deployment secret row.clientSecret →
          row.tenantId = principal.tenantId
  stored : ∀ call, pool.Holds rotation call →
    HasStored clientId principal.tenantId
        (deployment.hashPassword (readings.secret 0)) call.log →
      ¬ Accepted deployment clientId secret pool.world

theorem replaced_of_unused {pool : ClientPool}
    (unused : pool.calls rotation = none) :
    Replaced deployment rotation readings principal clientId secret pool := by
  have absent (call : ClientState) : ¬ pool.Holds rotation call := by
    rw [Pool.Holds, unused]
    rintro ⟨⟩
  exact ⟨fun call holds => absurd holds (absent call),
    fun call holds => absurd holds (absent call)⟩

/-- A statement that stores no hash for the secret keeps what holds of the
clients. -/
theorem Replaced.performed {pool : ClientPool} {stmt : ManagementStmt}
    (stores : ¬ Stores deployment clientId secret stmt) :
    ((∀ row ∈ pool.world.clients, row.id = clientId →
        Verifies deployment secret row.clientSecret →
          row.tenantId = principal.tenantId) →
      ∀ row ∈ (manage deployment stmt pool.world).2.clients, row.id = clientId →
        Verifies deployment secret row.clientSecret →
          row.tenantId = principal.tenantId) ∧
    (¬ Accepted deployment clientId secret pool.world →
      ¬ Accepted deployment clientId secret
        (manage deployment stmt pool.world).2) := by
  constructor
  · intro own row rowMem isClient verifies
    obtain ⟨old, oldMem, isOld, sameTenant, oldVerifies, -⟩ :=
      verifies_before rowMem isClient verifies stores
    exact sameTenant ▸ own old oldMem isOld oldVerifies
  · rintro closed ⟨row, rowMem, isClient, verifies⟩
    obtain ⟨old, oldMem, isOld, -, oldVerifies, -⟩ :=
      verifies_before rowMem isClient verifies stores
    exact closed ⟨old, oldMem, isOld, oldVerifies⟩

variable {pool : ClientPool} {id : Nat} {call : ClientState}
variable {stmt : ManagementStmt}

theorem own_of_read {row : ClientRow} {found : ClientRow}
    (entryEq : (⟨.client (.byId clientId principal.tenantId), .ok (some found)⟩ :
        Entry) = ⟨stmt, (manage deployment stmt pool.world).1⟩)
    (rowMem : row ∈ (manage deployment stmt pool.world).2.clients)
    (isClient : row.id = clientId) : row.tenantId = principal.tenantId := by
  obtain ⟨rfl, answered⟩ := Sigma.mk.inj entryEq
  obtain ⟨isFound, sameTenant⟩ :=
    Option.filter_eq_some_iff.mp (Except.ok.inj (eq_of_heq answered)).symm
  obtain ⟨foundMem, foundId⟩ := KeyedTable.lookup_eq_some.mp isFound
  rw [KeyedTable.eq_of_key_eq rowMem foundMem (isClient.trans foundId.symm)]
  exact of_decide_eq_true sameTenant

/-- The rotation has just stored its hash, which does not verify the secret. -/
theorem not_accepted_of_stored {hash : String}
    (entryEq : (⟨.client (.rotateSecret clientId principal.tenantId hash), .ok ()⟩ :
        Entry) = ⟨stmt, (manage deployment stmt pool.world).1⟩)
    (own : ∀ row ∈ pool.world.clients, row.id = clientId →
      Verifies deployment secret row.clientSecret →
        row.tenantId = principal.tenantId)
    (stores : ¬ Stores deployment clientId secret stmt) :
    ¬ Accepted deployment clientId secret (manage deployment stmt pool.world).2 := by
  rintro ⟨row, rowMem, isClient, verifies⟩
  obtain ⟨old, oldMem, isOld, -, oldVerifies, hashEq⟩ :=
    verifies_before rowMem isClient verifies stores
  have isOne : old.isOne clientId principal.tenantId = true := by
    simp [ClientRow.isOne, isOld, own old oldMem isOld oldVerifies]
  rw [hashEq, ← entryEq] at verifies
  obtain ⟨rfl, -⟩ := Sigma.mk.inj entryEq
  simp only [hashAfter, isOne, if_true] at verifies
  exact stores ⟨rfl, verifies⟩

/-- A step stores a hash for the secret, or keeps what is replaced. -/
theorem replaced_step (follows : Following deployment pool)
    (replaced : Replaced deployment rotation readings principal clientId secret pool)
    {event : ClientEvent} {next : ClientPool}
    (stepEq : step (system deployment) pool event = some next) :
    Storing deployment clientId secret pool event ∨
      Replaced deployment rotation readings principal clientId secret next := by
  cases event with
  | start other request =>
      obtain ⟨-, rfl⟩ := step_start.mp stepEq
      refine .inr ⟨fun found holds => ?_, fun found holds => ?_⟩
      · rcases Pool.holds_setCall.mp holds with ⟨-, rfl⟩ | ⟨-, before⟩
        · rintro ⟨row, ⟨⟩⟩
        · exact replaced.read found before
      · rcases Pool.holds_setCall.mp holds with ⟨-, rfl⟩ | ⟨-, before⟩
        · rintro ⟨⟩
        · exact replaced.stored found before
  | advance other =>
      obtain ⟨call, stmt, rest, holds, -, restEq, rfl⟩ := step_advance.mp stepEq
      by_cases stores : Stores deployment clientId secret stmt
      · exact .inl (storing_of_stores follows holds restEq stores)
      have performed : _ ∧ _ :=
        @Replaced.performed deployment clientId secret principal pool stmt stores
      refine .inr ⟨fun found foundHolds hasRead => ?_,
        fun found foundHolds hasStored => ?_⟩
      · rcases Pool.holds_setCall.mp foundHolds with ⟨rfl, rfl⟩ | ⟨-, before⟩
        · obtain ⟨row, rowMem⟩ := hasRead
          rcases List.mem_cons.mp rowMem with isNew | earlier
          · exact fun row rowMem isClient _ => own_of_read isNew rowMem isClient
          · exact performed.1 (replaced.read call holds ⟨row, earlier⟩)
        · exact performed.1 (replaced.read found before hasRead)
      · rcases Pool.holds_setCall.mp foundHolds with ⟨rfl, rfl⟩ | ⟨-, before⟩
        · rcases List.mem_cons.mp hasStored with isNew | earlier
          · have hasRead := (follows.allowed holds restEq).reads clientId
              principal.tenantId _ (Sigma.mk.inj isNew).1.symm
            exact not_accepted_of_stored isNew (replaced.read call holds hasRead)
              stores
          · exact performed.2 (replaced.stored call holds earlier)
        · exact performed.2 (replaced.stored found before hasStored)
  | fail other error =>
      obtain ⟨call, stmt, rest, holds, -, -, -, rfl⟩ := step_fail.mp stepEq
      refine .inr ⟨fun found foundHolds hasRead => ?_,
        fun found foundHolds hasStored => ?_⟩
      · rcases Pool.holds_setCall.mp foundHolds with ⟨rfl, rfl⟩ | ⟨-, before⟩
        · obtain ⟨row, rowMem⟩ := hasRead
          rcases List.mem_cons.mp rowMem with isNew | earlier
          · cases isNew
          · exact replaced.read call holds ⟨row, earlier⟩
        · exact replaced.read found before hasRead
      · rcases Pool.holds_setCall.mp foundHolds with ⟨rfl, rfl⟩ | ⟨-, before⟩
        · rcases List.mem_cons.mp hasStored with isNew | earlier
          · cases isNew
          · exact replaced.stored call holds earlier
        · exact replaced.stored found before hasStored
  | crash site => exact site.elim
  | change seconds =>
      obtain ⟨world, changed, rfl⟩ := step_change.mp stepEq
      cases changed
      exact .inr ⟨replaced.read, replaced.stored⟩

end Rotation

/-- Once a rotation has answered with a new secret, a secret is not accepted for
the client, or it was stored again since the rotation started. -/
theorem stored_or_not_accepted {start final : ClientPool}
    {events : List ClientEvent} {rotation : Nat} {call : ClientState}
    {readings : Readings} {principal : Principal} {fresh : String}
    (follows : Following deployment start)
    (unused : start.calls rotation = none)
    (runs : exec (step (system deployment)) start events = some final)
    (holds : final.Holds rotation call)
    (isRotation : call.request = .rotate readings principal clientId)
    (ended : call.rest = .done (.ok (.rotated (.success fresh)))) :
    Reaches (step (system deployment)) (Storing deployment clientId secret) start
        events ∨
      ¬ Accepted deployment clientId secret final.world := by
  have keeps (pool : ClientPool) (event : ClientEvent) (next : ClientPool)
      (kept : Following deployment pool ∧
        Replaced deployment rotation readings principal clientId secret pool)
      (stepEq : step (system deployment) pool event = some next) :
      Storing deployment clientId secret pool event ∨
        Following deployment next ∧
          Replaced deployment rotation readings principal clientId secret next :=
    (replaced_step kept.1 kept.2 stepEq).imp_right fun replaced =>
      ⟨following_step pool event next kept.1 stepEq, replaced⟩
  refine (reaches_or_kept keeps ⟨follows, replaced_of_unused unused⟩ runs).imp_right
    fun kept => ?_
  obtain ⟨rfl, hasStored⟩ := (kept.1.ended holds ended).2 readings principal clientId
    fresh isRotation rfl
  exact kept.2.stored call holds hasStored

/-- Once `rotate_client_secret` has answered, no request that starts later is
served with tokens or an active result for a secret, unless a registration or a
rotation of the client that drew this secret stored its hash since the rotation
started. -/
theorem replaced_secret_refused {world : World}
    {before during after : List ClientEvent} {start middle final : ClientPool}
    {rotation id : Nat} {rotate call : ClientState} {readings : Readings}
    {principal : Principal} {fresh : String} {answer : ClientAnswer}
    (reached : exec (step (system deployment)) (.init world) before = some start)
    (unused : start.calls rotation = none)
    (rotates : exec (step (system deployment)) start during = some middle)
    (rotateHolds : middle.Holds rotation rotate)
    (isRotation : rotate.request = .rotate readings principal clientId)
    (rotated : rotate.rest = .done (.ok (.rotated (.success fresh))))
    (later : middle.calls id = none)
    (runs : exec (step (system deployment)) middle after = some final)
    (holds : final.Holds id call)
    (isFilled : filled secret = true)
    (presents : Presents deployment clientId secret call.request)
    (ended : call.rest = .done (.ok answer)) (serves : answer.Serves) :
    Reaches (step (system deployment)) (Storing deployment clientId secret) start
      (during ++ after) := by
  have follows : Following deployment start :=
    invariant following_step follows_init reached
  rcases stored_or_not_accepted follows unused rotates rotateHolds isRotation rotated
    with stored | closed
  · exact stored.append
  have followsMiddle : Following deployment middle :=
    invariant following_step follows rotates
  have followsFinal : Following deployment final :=
    invariant following_step followsMiddle runs
  obtain ⟨entry, entryMem, reads⟩ := (followsFinal.ended holds ended).1 clientId
    secret isFilled presents answer rfl serves
  have opened := (gate_accepted clientId secret).reaches_of_uses later closed runs
    holds entryMem reads
  refine Reaches.after rotates (opened.mono following_step ?_ followsMiddle)
  rintro pool event follows
    ⟨⟨stmt, answered⟩, stores, other, call, next, rfl, holds, -, restEq, -⟩
  exact storing_of_stores follows holds restEq stores

end Runs

/-! ## A secret that is drawn again -/

/-- A database with one active client. -/
def oneClient : World where
  clients :=
    .single ⟨"c", "t", "old", "App", ["https://app/cb"], ["openid"], true⟩

def rotateTo (secret : String) : ClientCall :=
  .rotate ⟨fun _ => 0, fun _ => 0, fun _ => secret⟩ ⟨"u", "t", some "admin"⟩ "c"

/-- A `client_credentials` request with the secret that the client had first. -/
def withOldSecret : ClientCall :=
  .token {
    readings := ⟨fun _ => 0, fun _ => 0, fun _ => ""⟩
    request := {
      tenantHeader := some "t"
      contentType := "application/x-www-form-urlencoded"
      form := [("grant_type", .text "client_credentials"),
        ("client_id", .text "c"), ("client_secret", .text "old")] } }

/-- The first rotation draws a new secret, the second one the old secret. -/
theorem old_secret_drawn_again :
    Reaches (step (system (.plain []))) (Storing (.plain []) "c" "old")
      (.init oneClient)
      ([.start 0 (rotateTo "new"), .advance 0, .advance 0] ++
        [.start 1 (rotateTo "old"), .advance 1, .advance 1,
          .start 2 withOldSecret, .advance 2]) := by
  have reached : exec (step (system (.plain []))) (.init oneClient) [] =
      some (.init oneClient) := rfl
  have rotates : exec (step (system (.plain []))) (.init oneClient)
      [.start 0 (rotateTo "new"), .advance 0, .advance 0] = some _ := rfl
  exact @replaced_secret_refused _ "c" "old" _ _ _ _ _ _ _ 0 2 _ _ _ _ "new" _
    reached rfl rotates rfl rfl rfl rfl rfl rfl rfl ⟨_, rfl, rfl⟩ rfl trivial

end SecretRotation

end HexIam
