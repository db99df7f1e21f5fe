import HexIam.Tokens

/-!
# Purpose tokens

The links of mails carry tokens for one purpose: to verify an email address, or
to accept an invitation.  They are signed like every other token and have no id.
-/

namespace HexIam

namespace TokenService

variable (service : TokenService)

/-- `create_purpose_token`. -/
def createPurposeToken (payload : Claims) (secretKey algorithm : Option String) :
    Except Exn SignedToken :=
  service.manager.signToken service.jwt payload {} algorithm secretKey

/-- `decode_purpose_token`. -/
def decodePurposeToken (token : String) (now : Int)
    (secretKey algorithm expectedPurpose : Option String) : Except Exn Claims :=
  match service.manager.decodeToken service.jwt token
      { verifyAud := false, verifyExp := true } algorithm secretKey now with
  | .error error => .error (.jwt error)
  | .ok payload =>
      if given expectedPurpose && payload.purpose ≠ expectedPurpose then
        .error (.value ("Invalid token purpose. Expected '" ++
          expectedPurpose.getD "" ++ "'"))
      else .ok payload

/-- The payload of `create_verification_token`, which reads the clock twice. -/
def verificationPayload (expNow iatNow : Int) (userId tenantId : String) :
    Claims where
  userId := some userId
  tenantId := some tenantId
  purpose := some "email_verify"
  exp := some (expNow + 86400)
  iat := some iatNow

/-- `create_verification_token`; `ALGORITHM` is the algorithm of the signing-key
manager. -/
def createVerificationToken (expNow iatNow : Int) (userId tenantId : String) :
    Except Exn SignedToken :=
  service.createPurposeToken (verificationPayload expNow iatNow userId tenantId)
    (some service.jwtSecret) (some service.manager.algorithm)

/-- The payload of the token `create_invitation` puts into its link. -/
def invitationPayload (expiresAt iatNow : Int) (invitationId : String) :
    Claims where
  invitationId := some invitationId
  purpose := some "invitation"
  exp := some expiresAt
  iat := some iatNow

variable {service} {payload : Claims} {token : SignedToken}

theorem payload_of_createPurposeToken {secretKey algorithm : Option String}
    (minted : service.createPurposeToken payload secretKey algorithm =
      .ok token) : token.payload = payload :=
  (headerJti_of_signToken minted).1

theorem payload_of_createVerificationToken {expNow iatNow : Int}
    {userId tenantId : String}
    (minted : service.createVerificationToken expNow iatNow userId tenantId =
      .ok token) :
    token.payload = verificationPayload expNow iatNow userId tenantId :=
  payload_of_createPurposeToken minted

/-- Without an algorithm and a key, a purpose token is decoded like any other
token. -/
theorem decodePurposeToken_eq_ok {compact : String} {now : Int}
    {expectedPurpose : Option String} :
    service.decodePurposeToken compact now none none expectedPurpose =
        .ok payload ↔
      service.decodeJwtToken compact now true = .ok payload ∧
        (given expectedPurpose = true → payload.purpose = expectedPurpose) := by
  unfold decodePurposeToken decodeJwtToken
  cases service.manager.decodeToken service.jwt compact
      { verifyAud := false, verifyExp := true } none none now with
  | error error => simp
  | ok found =>
      simp only [Except.ok.injEq]
      split
      case isTrue refused =>
        simp only [Bool.and_eq_true, decide_eq_true_eq] at refused
        simp only [reduceCtorEq, false_iff, not_and]
        rintro rfl matched
        exact refused.2 (matched refused.1)
      case isFalse passed =>
        simp only [Bool.and_eq_true, decide_eq_true_eq, not_and, not_not]
          at passed
        simp only [Except.ok.injEq]
        constructor
        · rintro rfl
          exact ⟨rfl, passed⟩
        · exact fun both => both.1

end TokenService

end HexIam
