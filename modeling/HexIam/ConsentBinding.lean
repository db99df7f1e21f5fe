import HexIam.Footprint
import HexIam.GuardedRun

/-!
# Consent and the registered client

`authorize` checks the client and the redirect address of a request, but the
code is stored and the browser is sent on by `consent_submit`, which reads both
from its own form.  In the runs whose consent forms carry registered values,
every stored code and every redirect stays bound to the client it names; in
any other run one of them does not.
-/

namespace HexIam

open StatementTree GuardedRun

namespace ConsentBinding

/-! ## Requests and runs -/

/-- A request to one of the four endpoints, with the `client_id` that
`get_database_pool` may read besides the endpoint's own. -/
inductive FlowRequest : Type
  | authorize (request : AuthorizeRequest) (formClientId : PyValue)
  | login (request : LoginRequest) (queryClientId : Option String)
  | callback (request : CallbackRequest)
  | consent (request : ConsentRequest) (queryClientId : Option String)

/-- A request with its tenant header and what it reads from clocks and
`secrets`. -/
structure FlowCall where
  tenantHeader : Option String := none
  readings : Readings
  request : FlowRequest

/-- The dependency and the endpoint of a request. -/
def FlowCall.program (deployment : Deployment) (call : FlowCall) :
    App FlowResponse :=
  match call.request with
  | .authorize request formClientId => do
      let _ ← getDatabasePool call.tenantHeader (some request.params.clientId)
        formClientId
      HexIam.authorize deployment call.readings request
  | .login request queryClientId => do
      let db ← getDatabasePool call.tenantHeader queryClientId
        (.text request.params.clientId)
      loginSubmit deployment db call.readings request
  | .callback request => federationCallback deployment call.readings request
  | .consent request queryClientId => do
      let _ ← getDatabasePool call.tenantHeader queryClientId
        (.text request.params.clientId)
      consentSubmit deployment call.readings request

/-- A request, the passing of time, or a change of the registered clients. -/
inductive FlowEvent : Type
  | request (call : FlowCall)
  | wait (seconds : Nat)
  | manage (clients : ClientTable)

/-- The world after an event. -/
def flowStep (deployment : Deployment) (world : World) :
    FlowEvent → Option World
  | .request call => some (App.run deployment (call.program deployment) world).2
  | .wait seconds => some { world with now := world.now + seconds }
  | .manage clients => some { world with clients := clients }

/-! ## The property -/

/-- The address is registered for the client. -/
def Registered (world : World) (clientId redirectUri : String) : Prop :=
  ∃ client, world.clients.lookup clientId = some client ∧
    redirectUri ∈ client.redirectUris

/-- The code names an active client, an address registered for it and scopes
registered for it. -/
def BoundCode (world : World) (row : CodeRow) : Prop :=
  ∃ client, world.activeClient row.clientId = some client ∧
    row.redirectUri ∈ client.redirectUris ∧
    ∀ scope ∈ splitWhitespace row.scope, scope ∈ client.scopes

/-- The row is stored under a code that was free before. -/
def Created (before after : World) (row : CodeRow) : Prop :=
  row ∈ after.codes ∧ ∀ held ∈ before.codes, held.code ≠ row.code

/-- Every code the request stores is bound to its client, and where consent
redirects to is registered for the client its form names. -/
def BoundCall (deployment : Deployment) (world : World) (call : FlowCall) :
    Prop :=
  let outcome := App.run deployment (call.program deployment) world
  (∀ row, Created world outcome.2 row → BoundCode world row) ∧
    ∀ consent queryClientId redirectUri params,
      call.request = .consent consent queryClientId →
      outcome.1 = .ok (.clientRedirect redirectUri params) →
      Registered world consent.params.clientId redirectUri

/-- The requests of a run stay bound to the registered clients. -/
def Bound (deployment : Deployment) (world : World) : FlowEvent → Prop
  | .request call => BoundCall deployment world call
  | _ => True

/-! ## The condition -/

/-- The tenant `get_database_pool` finds for a form that names a client. -/
def tenantOfForm (world : World) (tenantHeader queryClientId : Option String)
    (clientId : String) : Option String :=
  let named := if given queryClientId then queryClientId.getD "" else clientId
  if given tenantHeader then tenantHeader
  else if filled named then
    (world.clients.lookup named).map ClientRow.tenantId
  else none

/-- The row `consent_submit` makes of a form for a user of a tenant. -/
def codeOf (readings : Readings) (params : AuthorizationParams)
    (userId tenantId : String) : CodeRow where
  id := readings.secret 1
  code := readings.secret 0
  clientId := params.clientId
  userId := userId
  tenantId := tenantId
  redirectUri := params.redirectUri
  scope := params.scope
  codeChallenge := params.codeChallenge.filter filled
  codeChallengeMethod := params.codeChallengeMethod.filter filled
  nonce := params.nonce.filter filled
  used := false
  expiresAt := readings.utcNow 1 + 600

/-- The constraints of `authorization_codes` let the row in. -/
def Storable (world : World) (row : CodeRow) : Prop :=
  (fits 255 row.codeChallenge && fits 10 row.codeChallengeMethod &&
    fits 255 row.nonce) = true ∧
  (∀ held ∈ world.codes, held.id ≠ row.id) ∧
  (world.clients.lookup row.clientId).isSome = true ∧
  world.hasUser row.userId = true ∧ world.hasTenant row.tenantId = true ∧
  ∀ held ∈ world.codes, held.code ≠ row.code

/-- The form of a signed-in user is honest: a refusal names a registered
address, and an approval that the database can store names an active client,
an address registered for it and scopes registered for it. -/
def HonestForm (world : World) (readings : Readings) (request : ConsentRequest)
    (user : Claims) : Prop :=
  if request.action = "deny" then
    Registered world request.params.clientId request.params.redirectUri
  else
    ∀ userId tenantId, user.userId = some userId →
      user.tenantId = some tenantId →
      Storable world (codeOf readings request.params userId tenantId) →
      BoundCode world (codeOf readings request.params userId tenantId)

/-- The consent forms that reach the endpoint with a session are honest. -/
def HonestCall (deployment : Deployment) (world : World) (call : FlowCall) :
    Prop :=
  ∀ consent queryClientId user, call.request = .consent consent queryClientId →
    given (tenantOfForm world call.tenantHeader queryClientId
      consent.params.clientId) = true →
    getSessionUser deployment.tokens consent.session (call.readings.utcNow 0) =
      some user →
    HonestForm world call.readings consent user

/-- The consent forms of a run are honest. -/
def Honest (deployment : Deployment) (world : World) : FlowEvent → Prop
  | .request call => HonestCall deployment world call
  | _ => True

/-! ## What one request does -/

section Requests

variable {deployment : Deployment} {world : World} {readings : Readings}

theorem not_created_of_codes_eq {after : World} {row : CodeRow}
    (same : after.codes = world.codes) : ¬ Created world after row := by
  rintro ⟨rowMem, free⟩
  rw [same] at rowMem
  exact free row rowMem rfl

theorem codes_run {α : Type} (tables : List Table) {program : App α}
    (uses : Uses tables program) (unused : .codes ∉ tables) :
    (App.run deployment program world).2.codes = world.codes :=
  frame_of_uses World.codes tables (fun _ _ => codes_perform deployment) uses unused

/-- The requests other than consent leave the codes alone. -/
theorem uses_flow_of_other {call : FlowCall}
    (other : ∀ consent queryClientId,
      call.request ≠ .consent consent queryClientId) :
    Uses [.users, .clients, .providers, .identities, .transactions, .upstream]
      (call.program deployment) := by
  unfold FlowCall.program
  cases requestEq : call.request with
  | authorize request formClientId =>
      exact (uses_getDatabasePool (by decide)).bind fun _ =>
        uses_authorize (by decide) (by decide) (by decide) (by decide)
  | login request queryClientId =>
      exact (uses_getDatabasePool (by decide)).bind fun _ =>
        uses_loginSubmit (by decide) (by decide)
  | callback request =>
      exact uses_federationCallback (by decide) (by decide) (by decide)
        (by decide) (by decide) (by decide)
  | consent request queryClientId => exact absurd requestEq (other _ _)

theorem uses_flow {call : FlowCall} :
    Uses [.users, .clients, .providers, .identities, .transactions, .upstream,
      .codes] (call.program deployment) := by
  by_cases isConsent : ∃ consent queryClientId,
      call.request = .consent consent queryClientId
  · obtain ⟨consent, queryClientId, requestEq⟩ := isConsent
    unfold FlowCall.program
    rw [requestEq]
    exact (uses_getDatabasePool (by decide)).bind fun _ =>
      uses_consentSubmit (by decide)
  · refine (uses_flow_of_other fun consent queryClientId requestEq =>
      isConsent ⟨consent, queryClientId, requestEq⟩).mono fun stmt used => ?_
    exact List.mem_append_left [Table.codes] used

/-- They store no code. -/
theorem codes_of_other {call : FlowCall}
    (other : ∀ consent queryClientId,
      call.request ≠ .consent consent queryClientId) :
    (App.run deployment (call.program deployment) world).2.codes =
      world.codes :=
  codes_run _ (uses_flow_of_other other) (by decide)

theorem run_getDatabasePool {tenantHeader queryClientId : Option String}
    {clientId : String} :
    App.run deployment
      (getDatabasePool tenantHeader queryClientId (.text clientId)) world =
      (if given (tenantOfForm world tenantHeader queryClientId clientId) then
        .ok (.forTenant
          ((tenantOfForm world tenantHeader queryClientId clientId).getD ""))
      else .error (.app .businessValidation
        "Tenant ID or valid client_id required"), world) := by
  have found : App.run deployment
      (requestTenant tenantHeader queryClientId (.text clientId)) world =
      (.ok (tenantOfForm world tenantHeader queryClientId clientId), world) := by
    have named : PyValue.orElse (.text (queryClientId.getD "")) (.text clientId) =
        .text (if given queryClientId then queryClientId.getD "" else clientId) := by
      cases queryClientId with
      | none => rfl
      | some queried => cases filledEq : filled queried <;>
          simp [PyValue.orElse, given, filledEq]
    unfold requestTenant tenantOfForm
    rw [named]
    by_cases header : given tenantHeader = true
    · simp [header]
    · cases filledEq : filled
          (if given queryClientId then queryClientId.getD "" else clientId) with
      | false => simp [header, filledEq]
      | true =>
          simp only [header, PyValue.truthy_text, filledEq, if_true]
          rfl
  rw [getDatabasePool, App.run_bind_of_ok found]
  split <;> simp_all

/-- A row is inserted exactly when the constraints let it in. -/
theorem perform_insert_code {row : CodeRow} :
    (Storable world row ∧ (CodeStmt.perform world (.insert row)).1 = .ok () ∧
      (CodeStmt.perform world (.insert row)).2.rows =
        world.codes.rows ++ [{ row with used := false }]) ∨
    (¬ Storable world row ∧
      (∃ error, (CodeStmt.perform world (.insert row)).1 = .error error) ∧
      (CodeStmt.perform world (.insert row)).2 = world.codes) := by
  have isEmpty {keep : CodeRow → Bool} : (world.codes.select keep).isEmpty =
      true ↔ ∀ held ∈ world.codes, keep held = false := by
    simp [KeyedTable.select, KeyedTable.mem_def]
  simp only [CodeStmt.perform]
  split
  case h_1 codes inserted =>
    simp only [require_bind_eq_ok, isEmpty, decide_eq_false_iff_not] at inserted
    obtain ⟨fitting, freeId, client, user, tenant, inserted⟩ := inserted
    split at inserted
    case h_1 table insertEq =>
      cases inserted
      obtain ⟨freeCode, rowsEq⟩ := KeyedTable.insert_eq_some.mp insertEq
      exact .inl ⟨⟨fitting, freeId, client, user, tenant, freeCode⟩, rfl, rowsEq⟩
    case h_2 => cases inserted
  case h_2 error failed =>
    refine .inr ⟨?_, ⟨error, rfl⟩, rfl⟩
    rintro ⟨fitting, freeId, client, user, tenant, freeCode⟩
    cases insertEq : world.codes.insert { row with used := false } with
    | none =>
        obtain ⟨held, heldMem, same⟩ := KeyedTable.insert_eq_none.mp insertEq
        exact freeCode held heldMem same
    | some table =>
        have accepted := isEmpty.mpr fun held heldMem =>
          decide_eq_false (freeId held heldMem)
        simp [require, fitting, accepted, client, user, tenant, insertEq, bind,
          Except.bind] at failed

/-- Every code of the outcome is bound, and its redirect goes to an address
registered for the client. -/
def BoundOutcome (world : World) (clientId : String)
    (outcome : Except Exn FlowResponse × World) : Prop :=
  (∀ row, Created world outcome.2 row → BoundCode world row) ∧
    ∀ redirectUri params, outcome.1 = .ok (.clientRedirect redirectUri params) →
      Registered world clientId redirectUri

theorem boundOutcome_of_none {clientId : String}
    {result : Except Exn FlowResponse}
    (noRedirect : ∀ redirectUri params,
      result ≠ .ok (.clientRedirect redirectUri params)) :
    BoundOutcome world clientId (result, world) :=
  ⟨fun _ created => absurd created (not_created_of_codes_eq rfl),
    fun _ _ resultEq => absurd resultEq (noRedirect _ _)⟩

theorem BoundCode.registered {row : CodeRow} (bound : BoundCode world row) :
    Registered world row.clientId row.redirectUri := by
  obtain ⟨client, active, registered, -⟩ := bound
  exact ⟨client, (Option.filter_eq_some_iff.mp active).1, registered⟩

/-- Storing a code and redirecting with it is bound exactly when the code is
refused or bound. -/
theorem boundOutcome_store {params : AuthorizationParams}
    {userId tenantId : String} {answer : List (String × String)} :
    BoundOutcome world params.clientId
        (App.run deployment
          (ask (.code (.insert (codeOf readings params userId tenantId))) >>=
            fun _ => pure (.clientRedirect params.redirectUri answer)) world) ↔
      (Storable world (codeOf readings params userId tenantId) →
        BoundCode world (codeOf readings params userId tenantId)) := by
  let row := codeOf readings params userId tenantId
  let outcome := CodeStmt.perform world (.insert row)
  have performed : App.run deployment (ask (.code (.insert row))) world =
      (outcome.1, { world with codes := outcome.2 }) := rfl
  rcases @perform_insert_code world row with
    ⟨storable, answered, rowsEq⟩ | ⟨refused, ⟨error, answered⟩, same⟩
  · rw [answered] at performed
    rw [App.run_bind_of_ok performed, App.run_pure]
    have mem (held : CodeRow) : held ∈ outcome.2 ↔
        held ∈ world.codes ∨ held = row := by
      rw [KeyedTable.mem_def, rowsEq]
      simp [KeyedTable.mem_def, row, codeOf]
    constructor
    · intro bound _
      exact bound.1 row ⟨(mem row).mpr (.inr rfl), storable.2.2.2.2.2⟩
    · intro bound
      refine ⟨fun created ⟨createdMem, free⟩ => ?_, fun uri _ resultEq => ?_⟩
      · rcases (mem created).mp createdMem with old | rfl
        · exact absurd rfl (free created old)
        · exact bound storable
      · cases resultEq
        exact (bound storable).registered
  · rw [answered] at performed
    rw [App.run_bind_of_error performed]
    refine iff_of_true ⟨fun created => ?_, fun _ _ resultEq => ?_⟩
      fun storable => absurd storable refused
    · exact fun isCreated => absurd isCreated (not_created_of_codes_eq same)
    · cases resultEq

/-- A consent form of a signed-in user is handled within the registration
exactly when it is honest. -/
theorem boundOutcome_form {request : ConsentRequest} {user : Claims}
    (signedIn : getSessionUser deployment.tokens request.session
      (readings.utcNow 0) = some user) :
    BoundOutcome world request.params.clientId
        (App.run deployment (consentSubmit deployment readings request) world) ↔
      HonestForm world readings request user := by
  unfold consentSubmit HonestForm
  rw [signedIn]
  by_cases denied : request.action = "deny"
  · simp only [denied, if_true]
    constructor
    · exact fun bound => bound.2 _ _ rfl
    · refine fun registered => ⟨fun _ created => ?_, fun uri _ resultEq => ?_⟩
      · exact absurd created (not_created_of_codes_eq rfl)
      · cases resultEq
        exact registered
  · simp only [denied, if_false]
    cases userEq : user.userId with
    | none =>
        exact iff_of_true (boundOutcome_of_none (by simp)) (by simp)
    | some userId =>
        cases tenantEq : user.tenantId with
        | none => exact iff_of_true (boundOutcome_of_none (by simp)) (by simp)
        | some tenantId =>
            refine Iff.trans boundOutcome_store ⟨?_, ?_⟩
            · rintro bound _ _ ⟨⟩ ⟨⟩
              exact bound
            · exact fun bound => bound userId tenantId rfl rfl

/-- A request stays bound to the registered clients exactly when its form is
honest. -/
theorem boundCall_iff {call : FlowCall} :
    BoundCall deployment world call ↔ HonestCall deployment world call := by
  cases requestEq : call.request with
  | consent request queryClientId =>
      have call_iff : BoundCall deployment world call ↔
          BoundOutcome world request.params.clientId
            (App.run deployment (call.program deployment) world) := by
        refine and_congr_right fun _ => ⟨fun bound uri params => ?_, ?_⟩
        · exact bound request queryClientId uri params requestEq
        · intro bound consent queried uri params same
          cases requestEq.symm.trans same
          exact bound uri params
      rw [call_iff, FlowCall.program, requestEq]
      simp only [HonestCall, requestEq]
      cases reached : given (tenantOfForm world call.tenantHeader queryClientId
          request.params.clientId) with
      | false =>
          rw [App.run_bind_of_error (by rw [run_getDatabasePool, reached]; rfl)]
          refine iff_of_true (boundOutcome_of_none (by simp)) ?_
          intro consent queried user same
          cases same
          simp [reached]
      | true =>
          rw [App.run_bind_of_ok (by rw [run_getDatabasePool, reached]; rfl)]
          cases signedIn : getSessionUser deployment.tokens request.session
              (call.readings.utcNow 0) with
          | none =>
              refine iff_of_true ?_ ?_
              · simp only [consentSubmit, signedIn]
                exact boundOutcome_of_none (by simp)
              · intro consent queried user same _ signed
                cases same
                simp [signedIn] at signed
          | some user =>
              refine (boundOutcome_form signedIn).trans ⟨?_, ?_⟩
              · intro honest consent queried other same _ signed
                cases same
                cases signedIn.symm.trans signed
                exact honest
              · exact fun honest => honest request queryClientId user rfl reached
                  signedIn
  | _ =>
      have other (consent : ConsentRequest) (queryClientId : Option String) :
          call.request ≠ .consent consent queryClientId := by
        simp [requestEq]
      refine iff_of_true ⟨fun row created => ?_, fun _ _ _ _ same => ?_⟩
        fun _ _ _ same => absurd same (other _ _)
      · exact absurd created (not_created_of_codes_eq (codes_of_other other))
      · exact absurd same (other _ _)

end Requests

/-! ## The result -/

/-- A run of requests stays bound to the registered clients exactly when its
consent forms are honest. -/
theorem bound_along_iff_honest (deployment : Deployment) (world : World)
    (events : List FlowEvent) :
    Along (flowStep deployment) (Bound deployment) world events ↔
      Along (flowStep deployment) (Honest deployment) world events := by
  have keeps (state : World) (event : FlowEvent) (next : World)
      (_ : True) (_ : flowStep deployment state event = some next) : True :=
    trivial
  refine along_congr keeps (fun state event _ => ?_) trivial
  cases event with
  | request call => exact boundCall_iff
  | wait seconds => exact Iff.rfl
  | manage clients => exact Iff.rfl

/-! ## A forged form -/

/-- A user of a tenant with one client. -/
def oneClient : World where
  tenants := .single { id := "t" }
  users := .single ⟨"u", "t", "u@t", "password", "U", "T", none, true, true, 0⟩
  clients :=
    .single ⟨"c", "t", "secret", "App", ["https://app/cb"], ["openid"], true⟩

/-- The user's browser holds a session. -/
def signedIn : Deployment :=
  .plain [("j.u-1", {
    sub := some "u@t"
    userId := some "u"
    tenantId := some "t"
    exp := some 3600 })]

/-- A consent form with an address and a scope of the browser's choice. -/
def forged : FlowCall where
  readings := ⟨fun _ => 0, fun _ => 0, fun _ => "code"⟩
  request := .consent {
    session := { cookie := some "j.u-1" }
    action := "approve"
    params := {
      clientId := "c"
      redirectUri := "https://evil/cb"
      scope := "admin" } } none

/-- The code is stored, and the browser is sent to the forged address with
it. -/
theorem forged_form_leaves_registration :
    ¬ Along (flowStep signedIn) (Bound signedIn) oneClient
      [.request forged] := by
  rintro ⟨⟨-, redirects⟩, -⟩
  obtain ⟨client, found, registered⟩ :=
    redirects _ none "https://evil/cb" [("code", "code")] rfl rfl
  cases found
  simp at registered

end ConsentBinding

end HexIam
