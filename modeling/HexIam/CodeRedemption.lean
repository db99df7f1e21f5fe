import HexIam.SingleUse
import HexIam.TokenCalls

/-!
# Redemption of authorization codes

`validate_authorization_code` selects an unused code, checks its challenge and
then marks it as used.  Two requests may both select a code before either marks
it.  In the interleavings where no request selects a code, with a verifier that
meets its challenge, while another is about to mark it, a code is redeemed at
most once.
-/

namespace HexIam

open StatementTree CallPool GuardedRun TokenCalls SingleUse

namespace CodeRedemption

/-- The call has marked the code as used: `validate_authorization_code` has
returned its row. -/
def Redeemed (log : Log) (code : String) : Prop :=
  (⟨.code (.markUsed (some code)), .ok ()⟩ : LogEntry Stmt Stmt.Resp Exn) ∈ log

/-- At most one call has redeemed each code. -/
def RedeemedOnce (pool : TokenPool) : Prop :=
  ∀ code id other first second, pool.Holds id first → pool.Holds other second →
    Redeemed first.log code → Redeemed second.log code → id = other

/-- The call is about to mark the code as used. -/
def AboutToMark (pool : TokenPool) (id : Nat) (code : String) : Prop :=
  ∃ call, pool.Holds id call ∧ call.Next (.code (.markUsed (some code)))

/-- A request selects a code, and its verifier meets the challenge, only while
no other is about to mark the code as used. -/
def Careful (deployment : Deployment) (pool : TokenPool) : TokenEvent → Prop
  | .advance id => ∀ call code clientId redirectUri row, pool.Holds id call →
      call.Next (.code (.validate (some code) clientId redirectUri)) →
      (CodeStmt.perform pool.world
        (.validate (some code) clientId redirectUri)).1 = .ok (some row) →
      challengeMet deployment row (call.request.field "code_verifier") =
        .ok true →
      ∀ other, ¬ AboutToMark pool other code
  | _ => True

/-! ## What a request does with codes -/

section Programs

variable {deployment : Deployment}

/-- A code is marked right after it was selected with a challenge that the
verifier meets, and token requests store no codes. -/
def guarded (deployment : Deployment) (call : TokenCall) (log : Log) :
    Stmt → Prop
  | .code (.insert _) => False
  | .code (.markUsed code) => ∃ text clientId redirectUri row,
      code = some text ∧
      log.head? = some ⟨.code (.validate (some text) clientId redirectUri),
        .ok (some row)⟩ ∧
      challengeMet deployment row (call.field "code_verifier") = .ok true
  | _ => True

theorem guarded_of_other {call : TokenCall} (log : Log) (stmt : Stmt)
    (other : stmt.table ≠ .codes) : guarded deployment call log stmt := by
  cases stmt with
  | code stmt => exact absurd rfl other
  | _ => trivial

theorem validateAuthorizationCode_obeys {call : TokenCall}
    {code clientId redirectUri : PyValue} {log : Log} :
    Obeys (guarded deployment call) (Answers (system deployment)) anyEnd
      (validateAuthorizationCode deployment code clientId redirectUri
        (call.field "code_verifier")) log := by
  unfold validateAuthorizationCode
  refine obeys_ofExcept_bind (fun boundCode _ => ?_) fun _ _ => trivial
  refine obeys_ofExcept_bind (fun boundClient _ => ?_) fun _ _ => trivial
  refine obeys_ofExcept_bind (fun boundUri _ => ?_) fun _ _ => trivial
  refine obeys_ask_bind trivial (fun selected may => ?_) fun _ _ => trivial
  cases selected with
  | none => trivial
  | some row =>
      refine obeys_ofExcept_bind (fun met metEq => ?_) fun _ _ => trivial
      cases met with
      | false => trivial
      | true =>
          refine obeys_ask_bind ?_ (fun _ _ => trivial) fun _ _ => trivial
          cases boundCode with
          | none =>
              obtain ⟨world, answered⟩ := answer_of_world may
              cases answered
          | some text => exact ⟨text, _, _, row, rfl, rfl, metEq⟩

/-- A row was returned exactly when a code was marked. -/
def returnsMarked (log : Log) (result : Except Exn (Option CodeRow)) : Prop :=
  (∃ row, result = .ok (some row)) ↔ ∃ code, Redeemed log code

theorem returnsMarked_of_neither {log : Log}
    {result : Except Exn (Option CodeRow)}
    (noRow : ∀ row, result ≠ .ok (some row))
    (noMark : ∀ entry ∈ log, ∀ code, entry.1 ≠ .code (.markUsed code)) :
    returnsMarked log result :=
  ⟨fun ⟨row, resultEq⟩ => absurd resultEq (noRow row),
    fun ⟨code, marked⟩ => absurd rfl (noMark _ marked (some code))⟩

theorem validateAuthorizationCode_returns
    {code clientId redirectUri verifier : PyValue} :
    Obeys (fun _ _ => True) (Answers (system deployment)) returnsMarked
      (validateAuthorizationCode deployment code clientId redirectUri verifier)
      [] := by
  have nothing (error : Exn) : returnsMarked [] (.error error) :=
    returnsMarked_of_neither (by simp) (by simp)
  have selected (found : CodeStmt) (notMark : ∀ code, found ≠ .markUsed code)
      (answer : Except Exn found.Resp) (result : Except Exn (Option CodeRow))
      (noRow : ∀ row, result ≠ .ok (some row)) :
      returnsMarked [⟨.code found, answer⟩] result :=
    returnsMarked_of_neither noRow (by simpa using notMark)
  unfold validateAuthorizationCode
  refine obeys_ofExcept_bind (fun boundCode _ => ?_) fun error _ => nothing error
  refine obeys_ofExcept_bind (fun boundClient _ => ?_) fun error _ =>
    nothing error
  refine obeys_ofExcept_bind (fun boundUri _ => ?_) fun error _ => nothing error
  refine obeys_ask_bind trivial (fun found may => ?_) fun error _ =>
    selected (.validate boundCode boundClient boundUri) (by simp) _ _ (by simp)
  cases found with
  | none =>
      exact selected (.validate boundCode boundClient boundUri) (by simp) _ _
        (by simp)
  | some row =>
      refine obeys_ofExcept_bind (fun met _ => ?_) fun error _ =>
        selected (.validate boundCode boundClient boundUri) (by simp) _ _
          (by simp)
      cases met with
      | false =>
          exact selected (.validate boundCode boundClient boundUri) (by simp) _ _
            (by simp)
      | true =>
          refine obeys_ask_bind trivial (fun _ _ => ?_) fun error failed => ?_
          · cases boundCode with
            | none =>
                obtain ⟨world, answered⟩ := answer_of_world may
                cases answered
            | some text =>
                exact ⟨fun _ => ⟨text, List.mem_cons_self⟩, fun _ => ⟨row, rfl⟩⟩
          · obtain ⟨world, answered⟩ := answer_of_world failed
            cases answered

attribute [local irreducible] SigningKeyManager.signToken in
theorem postToken_obeys (call : TokenCall) :
    Obeys (guarded deployment call) (Answers (system deployment)) anyEnd
      ((system deployment).program call) [] := by
  refine obeys_postToken (by decide) guarded_of_other ?_
  intro db client clientId data log dataEq _
  have verifierEq : PyValue.get data "code_verifier" =
      call.field "code_verifier" := by
    simp [TokenCall.field, dataEq]
  unfold grant
  dsimp only
  split
  · unfold authorizationCodeGrant
    dsimp only
    split
    · trivial
    rw [verifierEq]
    refine validateAuthorizationCode_obeys.bind (fun after found _ => ?_)
      fun _ _ _ => trivial
    cases found with
    | none => trivial
    | some row =>
        refine obeys_anyEnd_of_uses [.users, .policies, .refreshTokens] ?_
          (by decide) guarded_of_other
        refine Within.bind (uses_ask (by simp [Stmt.table])) fun user => ?_
        cases user with
        | none => exact within_done
        | some user =>
            exact (uses_fetchUserPolicies (by simp)).bind fun _ =>
              (uses_ofExcept _).bind fun _ =>
              (uses_createRefreshToken (by simp)).bind fun _ =>
              (uses_ofExcept _).bind fun _ => within_done
  split
  · exact obeys_anyEnd_of_uses [.users, .policies, .refreshTokens]
      (uses_refreshTokenGrant (by simp) (by simp) (by simp)) (by decide)
      guarded_of_other
  split
  · exact obeys_anyEnd_of_uses [] uses_clientCredentialsGrant (by decide)
      guarded_of_other
  split
  · exact obeys_anyEnd_of_uses [.users, .identities, .providers, .upstream,
      .policies, .refreshTokens] (uses_tokenExchangeGrant (by simp) (by simp)
        (by simp) (by simp) (by simp) (by simp)) (by decide) guarded_of_other
  · trivial

end Programs

/-! ## The invariant -/

section Invariant

variable {deployment : Deployment} {pool next : TokenPool}

/-- The code is used in every row. -/
def Used (world : World) (code : String) : Prop :=
  ∀ row ∈ world.codes, row.code = code → row.used = true

/-- Who is about to redeem which code, and who has. -/
def holdings (pool : TokenPool) : Holdings Nat String where
  pending := AboutToMark pool
  redeemed id code := ∃ call, pool.Holds id call ∧ Redeemed call.log code
  spent := Used pool.world

/-- What holds in every state of a careful run. -/
structure Safe (deployment : Deployment) (pool : TokenPool) : Prop where
  follows : Follows (system deployment) (guarded deployment)
    (fun _ => anyEnd) pool
  exclusive : Exclusive (holdings pool)

theorem safe_init {world : World} : Safe deployment (.init world) where
  follows := follows_init
  exclusive := exclusive_of_none
    (fun _ _ ⟨_, holds, _⟩ => Pool.not_holds_init holds)
    fun _ _ ⟨_, holds, _⟩ => Pool.not_holds_init holds

/-- A used code stays used: token requests only mark codes. -/
theorem used_perform {call : TokenCall} {log : Log} {stmt : Stmt}
    (allowed : guarded deployment call log stmt) {world : World} {code : String}
    (used : Used world code) :
    Used (perform deployment stmt world).2 code := by
  by_cases onCodes : stmt.table = .codes
  · cases stmt with
    | code stmt =>
        cases stmt with
        | insert row => cases allowed
        | validate code clientId redirectUri => exact used
        | markUsed marked =>
            intro row rowMem codeEq
            obtain ⟨held, heldMem, rowEq⟩ :=
              (KeyedTable.mem_update CodeRow.markUsed_code).mp rowMem
            split at rowEq
            · rw [rowEq]
              rfl
            · rw [rowEq] at codeEq ⊢
              exact used held heldMem codeEq
    | _ => cases onCodes
  · intro row rowMem
    rw [codes_perform deployment onCodes] at rowMem
    exact used row rowMem

/-- Marking a code leaves no unused row of it. -/
theorem used_markUsed (deployment : Deployment) {world : World}
    {code : String} :
    Used (perform deployment (.code (.markUsed (some code))) world).2 code := by
  intro row rowMem codeEq
  obtain ⟨held, heldMem, rowEq⟩ :=
    (KeyedTable.mem_update CodeRow.markUsed_code).mp rowMem
  split at rowEq
  case isTrue =>
    rw [rowEq]
    rfl
  case isFalse other =>
    rw [rowEq] at codeEq
    simp [codeEq] at other

theorem not_used_of_selected {world : World} {code : String}
    {clientId redirectUri : Option String} {row : CodeRow}
    (selected : (CodeStmt.perform world
      (.validate (some code) clientId redirectUri)).1 = .ok (some row)) :
    ¬ Used world code := by
  intro used
  obtain ⟨found, passes⟩ := Option.filter_eq_some_iff.mp
    (Except.ok.inj selected)
  obtain ⟨rowMem, codeEq⟩ := KeyedTable.lookup_eq_some.mp found
  simp [used row rowMem codeEq] at passes

theorem selected_of_aboutToMark
    (follows : Follows (system deployment) (guarded deployment)
      (fun _ => anyEnd) pool) {id : Nat} {code : String}
    (about : AboutToMark pool id code) :
    ∃ call clientId redirectUri row, pool.Holds id call ∧
      call.log.head? = some ⟨.code (.validate (some code) clientId redirectUri),
        .ok (some row)⟩ ∧
      challengeMet deployment row (call.request.field "code_verifier") =
        .ok true := by
  obtain ⟨call, holds, -, rest, restEq⟩ := about
  obtain ⟨text, clientId, redirectUri, row, codeEq, headEq, met⟩ :=
    follows.allowed holds restEq
  cases codeEq
  exact ⟨call, clientId, redirectUri, row, holds, headEq, met⟩

theorem safe_start {id : Nat} {request : TokenCall} (safe : Safe deployment pool)
    (stepEq : step (system deployment) pool (.start id request) = some next) :
    Safe deployment next := by
  have follows := follows_step postToken_obeys _ safe.follows stepEq
  obtain ⟨free, rfl⟩ := step_start.mp stepEq
  refine ⟨follows, safe.exclusive.keeps ?_ ?_ fun _ used => used⟩
  · intro other code about
    obtain ⟨call, holds, isNext⟩ := about
    rcases Pool.holds_setCall.mp holds with ⟨rfl, rfl⟩ | ⟨-, holds⟩
    · obtain ⟨found, _, _, _, foundHolds, headEq, -⟩ :=
        selected_of_aboutToMark follows ⟨_, holds, isNext⟩
      cases Pool.Holds.unique foundHolds holds
      cases headEq
    · exact ⟨call, holds, isNext⟩
  · rintro other code ⟨call, holds, redeemed⟩
    rcases Pool.holds_setCall.mp holds with ⟨-, rfl⟩ | ⟨-, holds⟩
    · cases redeemed
    · exact ⟨call, holds, redeemed⟩

/-- A statement either marks a code, or selects one whose challenge the
request meets, or adds no claim to any code. -/
theorem safe_advance {id : Nat} (safe : Safe deployment pool)
    (careful : Careful deployment pool (.advance id))
    (stepEq : step (system deployment) pool (.advance id) = some next) :
    Safe deployment next := by
  have follows := follows_step postToken_obeys _ safe.follows stepEq
  obtain ⟨call, stmt, rest, holds, alive, restEq, worldEq, holdsNext⟩ :=
    effect_of_advance stepEq
  refine ⟨follows, ?_⟩
  have allowed : guarded deployment call.request call.log stmt :=
    safe.follows.allowed holds restEq
  -- a call that is about to mark a code afterwards already was, or has just
  -- selected the code
  have pendingAfter : ∀ other code, AboutToMark next other code →
      (other ≠ id ∧ AboutToMark pool other code) ∨
      (other = id ∧ ∃ clientId redirectUri row,
        (⟨stmt, (perform deployment stmt pool.world).1⟩ :
          LogEntry Stmt Stmt.Resp Exn) =
          ⟨.code (.validate (some code) clientId redirectUri), .ok (some row)⟩ ∧
        challengeMet deployment row (call.request.field "code_verifier") =
          .ok true) := by
    intro other code about
    obtain ⟨found, clientId, redirectUri, row, foundHolds, headEq, met⟩ :=
      selected_of_aboutToMark follows about
    rcases (holdsNext _ _).mp foundHolds with
      ⟨same, rfl⟩ | ⟨away, foundHolds⟩
    · exact .inr ⟨same, clientId, redirectUri, row, Option.some.inj headEq, met⟩
    · obtain ⟨again, againHolds, isNext⟩ := about
      rcases (holdsNext _ _).mp againHolds with ⟨same, -⟩ | ⟨-, againHolds⟩
      · exact absurd same away
      · exact .inl ⟨away, again, againHolds, isNext⟩
  have redeemedAfter : ∀ other code, (holdings next).redeemed other code →
      (holdings pool).redeemed other code ∨
        other = id ∧ stmt = .code (.markUsed (some code)) := by
    rintro other code ⟨found, foundHolds, redeemed⟩
    rcases (holdsNext _ _).mp foundHolds with
      ⟨rfl, rfl⟩ | ⟨away, foundHolds⟩
    · rcases List.mem_cons.mp redeemed with newest | redeemed
      · exact .inr ⟨rfl, (congrArg Sigma.fst newest).symm⟩
      · exact .inl ⟨call, holds, redeemed⟩
    · exact .inl ⟨found, foundHolds, redeemed⟩
  have usedAfter : ∀ code, (holdings pool).spent code →
      (holdings next).spent code := by
    intro code used
    show Used next.world code
    rw [worldEq]
    exact used_perform allowed used
  by_cases marks : ∃ code, stmt = .code (.markUsed code)
  · obtain ⟨marked, rfl⟩ := marks
    obtain ⟨code, -, -, -, rfl, -⟩ := allowed
    have usedNow : (holdings next).spent code := by
      show Used next.world code
      rw [worldEq]
      exact used_markUsed deployment
    refine safe.exclusive.spend ⟨call, holds, alive, rest, restEq⟩ ?_ ?_
      usedAfter usedNow
    · intro other code about
      rcases pendingAfter other code about with
        ⟨away, before⟩ | ⟨-, _, _, _, impossible, -⟩
      · exact ⟨before, fun same => away same.1⟩
      · cases impossible
    · intro other code redeemed
      rcases redeemedAfter other code redeemed with before | ⟨rfl, same⟩
      · exact .inl before
      · cases same
        exact .inr ⟨rfl, rfl⟩
  have redeemedKept : ∀ other code, (holdings next).redeemed other code →
      (holdings pool).redeemed other code := fun other code redeemed =>
    (redeemedAfter other code redeemed).resolve_right
      fun ⟨_, same⟩ => marks ⟨_, same⟩
  by_cases selects : ∃ code clientId redirectUri row,
      (⟨stmt, (perform deployment stmt pool.world).1⟩ :
        LogEntry Stmt Stmt.Resp Exn) =
        ⟨.code (.validate (some code) clientId redirectUri), .ok (some row)⟩ ∧
      challengeMet deployment row (call.request.field "code_verifier") =
        .ok true
  · obtain ⟨code, clientId, redirectUri, row, entryEq, met⟩ := selects
    obtain ⟨rfl, answerEq⟩ := Sigma.mk.inj entryEq
    have selected := eq_of_heq answerEq
    refine safe.exclusive.check id (not_used_of_selected selected) ?_ ?_
      redeemedKept usedAfter
    · intro other about
      exact absurd about (careful call code clientId redirectUri row holds
        ⟨alive, rest, restEq⟩ selected met other)
    · intro other found about
      rcases pendingAfter other found about with
        ⟨-, before⟩ | ⟨same, _, _, _, again, -⟩
      · exact .inl before
      · obtain ⟨stmtEq, -⟩ := Sigma.mk.inj again
        cases stmtEq
        exact .inr ⟨same, rfl⟩
  · refine safe.exclusive.keeps ?_ redeemedKept usedAfter
    intro other code about
    rcases pendingAfter other code about with
      ⟨-, before⟩ | ⟨-, clientId, redirectUri, row, entryEq, met⟩
    · exact before
    · exact absurd ⟨code, clientId, redirectUri, row, entryEq, met⟩ selects

theorem safe_change {seconds : Nat} (safe : Safe deployment pool)
    (stepEq : step (system deployment) pool (.change seconds) = some next) :
    Safe deployment next := by
  have follows := follows_step postToken_obeys _ safe.follows stepEq
  obtain ⟨world, changed, rfl⟩ := step_change.mp stepEq
  cases Option.some.inj changed
  exact ⟨follows, safe.exclusive.keeps (fun _ _ about => about)
    (fun _ _ redeemed => redeemed) fun _ used => used⟩

theorem safe_step (event : TokenEvent) (safe : Safe deployment pool)
    (careful : Careful deployment pool event)
    (stepEq : step (system deployment) pool event = some next) :
    Safe deployment next := by
  cases event with
  | start id request => exact safe_start safe stepEq
  | advance id => exact safe_advance safe careful stepEq
  | fail id error =>
      obtain ⟨_, _, _, -, -, -, fails, -⟩ := step_fail.mp stepEq
      cases fails
  | crash site => exact site.elim
  | change seconds => exact safe_change safe stepEq

end Invariant

/-! ## The result -/

/-- In every interleaving of token requests whose selections are all careful,
each code is redeemed at most once. -/
theorem codes_redeemed_once (deployment : Deployment) {world : World}
    {events : List TokenEvent} {pool : TokenPool}
    (careful : Along (step (system deployment)) (Careful deployment)
      (.init world) events)
    (runs : exec (step (system deployment)) (.init world) events = some pool) :
    RedeemedOnce pool := by
  have safe : Safe deployment pool :=
    invariant_along (fun _ event _ safe careful stepEq =>
      safe_step event safe careful stepEq) safe_init careful runs
  intro code id other first second firstHolds secondHolds firstRedeemed
    secondRedeemed
  exact safe.exclusive.once id other code ⟨first, firstHolds, firstRedeemed⟩
    ⟨second, secondHolds, secondRedeemed⟩

/-! ## A code redeemed twice, and a run that redeems it once -/

/-- A client, and a code it may redeem. -/
def oneCode : World where
  clients :=
    .single ⟨"c", "t", "secret", "App", ["https://app/cb"], ["openid"], true⟩
  codes :=
    .single ⟨"1", "code", "c", "u", "t", "https://app/cb", "openid", none, none,
    none, false, 600⟩

/-- The client redeems the code. -/
def redeem : TokenCall where
  readings := ⟨fun _ => 0, fun _ => 0, fun _ => ""⟩
  request := {
    tenantHeader := some "t"
    contentType := "application/x-www-form-urlencoded"
    form := [("grant_type", .text "authorization_code"),
      ("client_id", .text "c"), ("client_secret", .text "secret"),
      ("code", .text "code"), ("redirect_uri", .text "https://app/cb")] }

/-- Both requests select the code before either marks it. -/
theorem code_redeemed_twice :
    ∃ pool, exec (step (system (.plain []))) (.init oneCode)
        [.start 0 redeem, .start 1 redeem, .advance 0, .advance 1, .advance 0,
          .advance 1, .advance 0, .advance 1] = some pool ∧
      ¬ RedeemedOnce pool := by
  refine ⟨_, rfl, fun once => ?_⟩
  exact absurd (once "code" 0 1 _ _ rfl rfl List.mem_cons_self
    List.mem_cons_self) (by decide)

theorem careful_of_not_validate {deployment : Deployment} {pool : TokenPool}
    {id : Nat} {call : Call TokenCall Stmt Stmt.Resp Exn TokenResponse}
    {stmt : Stmt} {rest : Except Exn stmt.Resp → App TokenResponse}
    (holds : pool.Holds id call) (restEq : call.rest = .perform stmt rest)
    (other : ∀ code clientId redirectUri,
      stmt ≠ .code (.validate code clientId redirectUri)) :
    Careful deployment pool (.advance id) := by
  intro found code clientId redirectUri row foundHolds isNext
  have same := (holds.next_unique restEq foundHolds isNext).2
  exact absurd same.symm (other _ _ _)

/-- The second request selects the code after the first has marked it. -/
theorem code_redeemed_in_turn :
    ∃ pool, exec (step (system (.plain []))) (.init oneCode)
        [.start 0 redeem, .advance 0, .advance 0, .start 1 redeem, .advance 1,
          .advance 0, .advance 1] = some pool ∧ RedeemedOnce pool := by
  have careful : Along (step (system (.plain []))) (Careful (.plain []))
      (.init oneCode) [.start 0 redeem, .advance 0, .advance 0,
        .start 1 redeem, .advance 1, .advance 0, .advance 1] := by
    refine along_of_step rfl trivial (along_of_step rfl ?_
      (along_of_step rfl ?_ (along_of_step rfl trivial (along_of_step rfl ?_
      (along_of_step rfl ?_ (along_of_step rfl ?_ (along_nil _)))))))
    · refine careful_of_not_validate rfl rfl fun code clientId redirectUri same => ?_
      cases same
    · rintro call code clientId redirectUri row - - - - other
        ⟨found, holds, -, next, restEq⟩
      by_cases first : other = 0
      · subst first
        cases holds
        cases restEq
      · simp [Pool.Holds, Pool.setCall, Pool.init,
          Function.update_of_ne first] at holds
    · refine careful_of_not_validate rfl rfl fun code clientId redirectUri same => ?_
      cases same
    · refine careful_of_not_validate rfl rfl fun code clientId redirectUri same => ?_
      cases same
    · rintro call code clientId redirectUri row holds ⟨-, next, restEq⟩ selected
      cases holds
      cases restEq
      cases selected
  have runs : exec (step (system (.plain []))) (.init oneCode)
      [.start 0 redeem, .advance 0, .advance 0, .start 1 redeem, .advance 1,
        .advance 0, .advance 1] = some _ := rfl
  exact ⟨_, runs, codes_redeemed_once (.plain []) careful runs⟩

end CodeRedemption

end HexIam
