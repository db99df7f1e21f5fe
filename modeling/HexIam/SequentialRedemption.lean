import HexIam.OidcService

/-!
# Redeeming a code in one attempt after the other

`validate_authorization_code` under attempts that do not overlap.  An attempt
that is refused leaves the code as it is, and the first attempt with the client,
the redirect URI and a verifier for the challenge of the code redeems it.  A
stored challenge and a verifier count only when they are not empty.
-/

namespace HexIam

open StatementTree

namespace SequentialRedemption

/-- The arguments of a call, and its time. -/
structure Attempt where
  now : Int
  clientId : String
  redirectUri : String
  verifier : Option String

/-- The verifier of a call as it reaches the function. -/
def Attempt.verifierValue (attempt : Attempt) : PyValue :=
  match attempt.verifier with
  | none => .none
  | some verifier => .text verifier

section Calls

variable (deployment : Deployment)

/-- An attempt to redeem the code. -/
def redeem (code : String) (attempt : Attempt) (world : World) :
    Except Exn (Option CodeRow) × World :=
  App.run deployment (validateAuthorizationCode deployment (.text code)
    (.text attempt.clientId) (.text attempt.redirectUri) attempt.verifierValue)
    { world with now := attempt.now }

/-- The world after attempts, one after the other. -/
def redeemAll (code : String) (attempts : List Attempt) (world : World) : World :=
  attempts.foldl (fun world attempt => (redeem deployment code attempt world).2)
    world

/-- The verifier under the method of the code. -/
def derived (row : CodeRow) (verifier : String) : String :=
  if row.codeChallengeMethod = some "S256" then deployment.s256 verifier
  else verifier

/-- The attempt names the client and the redirect URI of the code, and its
verifier gives the challenge, if one is stored. -/
def satisfies (row : CodeRow) (attempt : Attempt) : Bool :=
  attempt.clientId = row.clientId && attempt.redirectUri = row.redirectUri &&
    match row.codeChallenge with
    | none => true
    | some challenge =>
        attempt.verifier.any fun verifier => derived deployment row verifier = challenge

/-- Likewise, where an empty challenge counts as none and an empty verifier as
none. -/
def satisfiesFilled (row : CodeRow) (attempt : Attempt) : Bool :=
  attempt.clientId = row.clientId && attempt.redirectUri = row.redirectUri &&
    match row.codeChallenge.filter filled with
    | none => true
    | some challenge => (attempt.verifier.filter filled).any fun verifier =>
        derived deployment row verifier = challenge

/-- In every sequence of attempts before the expiry the first that fits gets the
row, every other gets none, and where an attempt gets none the codes stay. -/
def RedeemsFirst (fits : CodeRow → Attempt → Bool) (row : CodeRow)
    (world : World) : Prop :=
  ∀ (earlier : List Attempt) (attempt : Attempt),
    (∀ other ∈ earlier ++ [attempt], other.now < row.expiresAt) →
    let before := redeemAll deployment row.code earlier world
    let outcome := redeem deployment row.code attempt before
    outcome.1 = .ok (if fits row attempt && earlier.all fun other => !fits row other
      then some row else none) ∧
    (outcome.1 = .ok none → outcome.2.codes = before.codes)

end Calls

/-! ## One attempt -/

section OneAttempt

variable {deployment : Deployment} {world : World} {row : CodeRow}
variable {attempt : Attempt}

/-- The check of the challenge, which raises nothing for a text. -/
theorem challengeMet_eq :
    challengeMet deployment row attempt.verifierValue =
      .ok (match row.codeChallenge.filter filled with
        | none => true
        | some challenge => (attempt.verifier.filter filled).any fun verifier =>
            derived deployment row verifier = challenge) := by
  unfold challengeMet derived Attempt.verifierValue
  cases challengeEq : row.codeChallenge with
  | none => rfl
  | some challenge =>
      rw [Option.filter_some]
      cases isFilled : filled challenge with
      | false => simp [given, isFilled]
      | true =>
          cases attempt.verifier with
          | none => simp [given, isFilled, PyValue.truthy]
          | some verifier =>
              cases verifierFilled : filled verifier with
              | false => simp [given, isFilled, PyValue.truthy, verifierFilled]
              | true =>
                  by_cases method : row.codeChallengeMethod = some "S256" <;>
                    simp [given, isFilled, PyValue.truthy, verifierFilled, method,
                      eq_comm]

/-- The row that the query of an attempt selects. -/
def selected (world : World) (code : String) (attempt : Attempt) : Option CodeRow :=
  (world.codes.lookup code).filter fun row =>
    some row.clientId = some attempt.clientId &&
      some row.redirectUri = some attempt.redirectUri && !row.used &&
      attempt.now < row.expiresAt

/-- An attempt, after its arguments are bound. -/
theorem redeem_eq {code : String} :
    redeem deployment code attempt world =
      match selected world code attempt with
      | none => (.ok none, { world with now := attempt.now })
      | some row => App.run deployment (do
          if ← ofExcept (challengeMet deployment row attempt.verifierValue) then
            ask (.code (.markUsed (some code)))
            return some row
          else
            return none) { world with now := attempt.now } := by
  have asked : App.run deployment (ask (.code (.validate (some code)
      (some attempt.clientId) (some attempt.redirectUri))))
      { world with now := attempt.now } =
      (.ok (selected world code attempt), { world with now := attempt.now }) := rfl
  have bound (text : String) : App.run deployment (ofExcept (bindText (.text text)))
      { world with now := attempt.now } =
      (.ok (some text), { world with now := attempt.now }) := rfl
  unfold redeem validateAuthorizationCode
  rw [App.run_bind_of_ok (bound _), App.run_bind_of_ok (bound _),
    App.run_bind_of_ok (bound _), App.run_bind_of_ok asked]
  cases selected world code attempt <;> rfl

theorem redeem_unused (stored : world.codes.lookup row.code = some row)
    (unused : row.used = false) (inTime : attempt.now < row.expiresAt) :
    redeem deployment row.code attempt world =
      if satisfiesFilled deployment row attempt then
        (.ok (some row), { world with
          now := attempt.now
          codes := world.codes.update (fun held => some held.code = some row.code)
            CodeRow.markUsed CodeRow.markUsed_code })
      else (.ok none, { world with now := attempt.now }) := by
  have selectedEq : selected world row.code attempt =
      if attempt.clientId = row.clientId && attempt.redirectUri = row.redirectUri
      then some row else none := by
    simp only [selected, stored, Option.filter_some, unused, inTime,
      Option.some.injEq, @eq_comm _ row.clientId, @eq_comm _ row.redirectUri]
    simp
  rw [redeem_eq, selectedEq]
  unfold satisfiesFilled
  cases names : decide (attempt.clientId = row.clientId) &&
      decide (attempt.redirectUri = row.redirectUri) with
  | false => rfl
  | true =>
      rw [if_pos rfl, Bool.true_and]
      dsimp only
      rw [challengeMet_eq]
      generalize (match row.codeChallenge.filter filled with
        | none => true
        | some challenge => (attempt.verifier.filter filled).any fun verifier =>
            decide (derived deployment row verifier = challenge)) = met
      cases met <;> rfl

theorem redeem_used {held : CodeRow}
    (stored : world.codes.lookup row.code = some held) (used : held.used = true) :
    redeem deployment row.code attempt world =
      (.ok none, { world with now := attempt.now }) := by
  have selectedEq : selected world row.code attempt = none := by
    simp [selected, stored, Option.filter_some, used]
  rw [redeem_eq, selectedEq]

end OneAttempt

/-! ## Attempts one after the other -/

section Attempts

variable {deployment : Deployment} {world : World} {row : CodeRow}

theorem codes_redeemAll_of_used {held : CodeRow} (attempts : List Attempt)
    (stored : world.codes.lookup row.code = some held) (used : held.used = true) :
    (redeemAll deployment row.code attempts world).codes = world.codes := by
  induction attempts generalizing world with
  | nil => rfl
  | cons attempt rest ih =>
      have first := @redeem_used deployment world row attempt held stored used
      rw [redeemAll, List.foldl_cons, first]
      exact @ih { world with now := attempt.now } stored

theorem lookup_redeemAll (attempts : List Attempt)
    (stored : world.codes.lookup row.code = some row) (unused : row.used = false)
    (inTime : ∀ attempt ∈ attempts, attempt.now < row.expiresAt) :
    (redeemAll deployment row.code attempts world).codes.lookup row.code =
      some (if attempts.any (satisfiesFilled deployment row) then row.markUsed
        else row) := by
  induction attempts generalizing world with
  | nil => simpa [redeemAll] using stored
  | cons attempt rest ih =>
      have first := @redeem_unused deployment world row attempt stored unused
        (inTime attempt List.mem_cons_self)
      have restInTime : ∀ other ∈ rest, other.now < row.expiresAt :=
        fun other otherMem => inTime other (List.mem_cons_of_mem _ otherMem)
      rw [redeemAll, List.foldl_cons, first, List.any_cons]
      cases fits : satisfiesFilled deployment row attempt with
      | false =>
          rw [if_neg Bool.false_ne_true, Bool.false_or]
          exact @ih { world with now := attempt.now } stored restInTime
      | true =>
          rw [if_pos rfl, Bool.true_or, if_pos rfl]
          have marked : (world.codes.update
              (fun held => some held.code = some row.code) CodeRow.markUsed
              CodeRow.markUsed_code).lookup row.code = some row.markUsed := by
            rw [KeyedTable.lookup_update, stored]
            simp
          have stays := @codes_redeemAll_of_used deployment { world with
            now := attempt.now
            codes := world.codes.update (fun held => some held.code = some row.code)
              CodeRow.markUsed CodeRow.markUsed_code } row row.markUsed rest marked rfl
          exact (congrArg (fun codes : CodeTable => codes.lookup row.code)
            stays).trans marked

end Attempts

/-- The first attempt that fits redeems a stored code, with empty challenges
and verifiers counted as none. -/
theorem redeemsFirst_of_stored (deployment : Deployment) (world : World)
    (row : CodeRow) (stored : world.codes.lookup row.code = some row)
    (unused : row.used = false) :
    RedeemsFirst deployment (satisfiesFilled deployment) row world := by
  intro earlier attempt inTime before outcome
  have attemptInTime : attempt.now < row.expiresAt :=
    inTime attempt (List.mem_append_right _ (List.mem_singleton.mpr rfl))
  have held := @lookup_redeemAll deployment world row earlier stored unused
    fun other otherMem => inTime other (List.mem_append_left _ otherMem)
  have none_fits : (earlier.all fun other => !satisfiesFilled deployment row other) =
      !earlier.any (satisfiesFilled deployment row) := by
    simp [List.all_eq_not_any_not]
  rw [none_fits]
  cases redeemed : earlier.any (satisfiesFilled deployment row) with
  | true =>
      rw [redeemed, if_pos rfl] at held
      have refused := @redeem_used deployment before row attempt row.markUsed held rfl
      simp only [outcome, refused, Bool.not_true, Bool.and_false,
        Bool.false_eq_true, if_false, forall_const, and_self]
  | false =>
      rw [redeemed, if_neg Bool.false_ne_true] at held
      have attempted := @redeem_unused deployment before row attempt held unused
        attemptInTime
      rw [Bool.not_false, Bool.and_true]
      cases fits : satisfiesFilled deployment row attempt with
      | false =>
          rw [fits, if_neg Bool.false_ne_true] at attempted
          simp only [outcome, attempted, Bool.false_eq_true, if_false, forall_const,
            and_self]
      | true =>
          rw [fits, if_pos rfl] at attempted
          simp only [outcome, attempted, if_true, Except.ok.injEq, reduceCtorEq,
            false_implies, and_self]

/-! ## Stored codes -/

/-- The challenge of the empty verifier, and the one of a longer verifier. -/
def hashing : Deployment :=
  { Deployment.plain [] with
    s256 := fun verifier =>
      if verifier = "" then "47DEQpj8HBSa-_TImW-5JCeuQeRkm5NMpJWZG3hSuFU"
      else if verifier = "dBjftJeZ4CVP-mB92K27uhbUJU1p1r_wW1gFWFOEjXk" then
        "E9Melhoa2OwvFrEMTJguCHaoeK1t8URWbuGJSstw-cM"
      else "" }

/-- A code with a challenge. -/
def codeWith (challenge : String) : CodeRow where
  id := "i"
  code := "c"
  clientId := "app"
  userId := "u"
  tenantId := "t"
  redirectUri := "https://app"
  scope := "openid"
  codeChallenge := some challenge
  codeChallengeMethod := some "S256"
  nonce := none
  used := false
  expiresAt := 600

/-- The table holds this code only. -/
def storing (row : CodeRow) : World where
  codes := .single row

theorem stored_code_redeems_first :
    RedeemsFirst hashing (satisfiesFilled hashing)
      (codeWith "E9Melhoa2OwvFrEMTJguCHaoeK1t8URWbuGJSstw-cM")
      (storing (codeWith "E9Melhoa2OwvFrEMTJguCHaoeK1t8URWbuGJSstw-cM")) :=
  redeemsFirst_of_stored hashing _ _ rfl rfl

/-- The empty verifier is refused although its challenge is stored, and a code
with an empty challenge is given without a verifier. -/
theorem empty_texts_count_as_none :
    ¬ RedeemsFirst hashing (satisfies hashing)
        (codeWith "47DEQpj8HBSa-_TImW-5JCeuQeRkm5NMpJWZG3hSuFU")
        (storing (codeWith "47DEQpj8HBSa-_TImW-5JCeuQeRkm5NMpJWZG3hSuFU")) ∧
      ¬ RedeemsFirst hashing (satisfies hashing) (codeWith "")
        (storing (codeWith "")) := by
  constructor
  · intro redeems
    have redeemed := (redeems [] ⟨0, "app", "https://app", some ""⟩
      (by simp [codeWith])).1
    cases redeemed
  · intro redeems
    have refused := (redeems [] ⟨0, "app", "https://app", none⟩
      (by simp [codeWith])).1
    cases refused

end SequentialRedemption

end HexIam
