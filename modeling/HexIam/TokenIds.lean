import HexIam.Footprint
import HexIam.KeyTokens
import HexIam.Middleware

/-!
# The ids of tokens

`create_jwt_token` names a token after its principal and a reading of the clock,
with a dash between them.  The digits of the reading have no dash, so the last
dash of an id tells both, whatever the principal is called.  The middleware reads
the id in the header and `introspect` the one in the claims a token decodes to;
they are the same.
-/

namespace HexIam

open HttpWorker TokenService

/-- What PyJWT decodes is what it encoded, whoever verifies the token. -/
def JwtLibrary.ReadsBack (jwt : JwtLibrary) : Prop :=
  ∀ claims key algorithm header verifyingKey algorithms options now decoded,
    jwt.decode (jwt.encode claims key algorithm header) verifyingKey algorithms
      options now = .ok decoded → decoded = claims

namespace TokenIds

/-! ## Ids -/

theorem dash_notMem_repr (number : Nat) : '-' ∉ (toString number).toList := by
  intro dashMem
  have isDigit : Char.isDigit '-' = true :=
    Nat.isDigit_of_mem_toDigits (by decide) (by decide)
      ((Nat.toList_repr (n := number)) ▸ dashMem)
  exact absurd isDigit (by decide)

theorem toString_injective {first second : Nat}
    (same : toString first = toString second) : first = second := by
  have digits : Nat.toDigits 10 first = Nat.toDigits 10 second := by
    rw [← Nat.toList_repr, ← Nat.toList_repr]
    exact congrArg String.toList same
  rw [← Nat.ofDigitChars_toDigits (by decide : 1 < 10) (Nat.le_refl 10) (n := first),
    digits, Nat.ofDigitChars_toDigits (by decide) (Nat.le_refl 10)]

/-- An id tells its principal and its reading. -/
theorem id_injective {first second : String} {firstNs secondNs : Nat}
    (same : first ++ "-" ++ toString firstNs = second ++ "-" ++ toString secondNs) :
    first = second ∧ firstNs = secondNs := by
  have lists := congrArg String.toList same
  simp only [String.toList_append, List.append_assoc] at lists
  obtain ⟨firstEq, digitsEq⟩ := append_cons_inj_of_notMem_right
    (dash_notMem_repr firstNs) (dash_notMem_repr secondNs) lists
  exact ⟨String.toList_injective firstEq,
    toString_injective (String.toList_injective digitsEq)⟩

/-! ## Runs of minting -/

/-- A call of `create_jwt_token` on a worker. -/
structure Minting where
  worker : Nat
  payload : Claims
  timeNs : Nat
  deriving DecidableEq, Repr

/-- The workers share PyJWT; each has its `JWT_SECRET` and the key set it holds
at a time. -/
structure Fleet where
  jwt : JwtLibrary
  manager : (worker timeNs : Nat) → SigningKeyManager
  jwtSecret : (worker : Nat) → String

/-- The token service of a worker at a time. -/
def Fleet.service (fleet : Fleet) (worker timeNs : Nat) : TokenService :=
  ⟨fleet.jwt, fleet.manager worker timeNs, fleet.jwtSecret worker⟩

/-- The token of a call in its compact form, if the call returns one. -/
def Fleet.mint (fleet : Fleet) (minting : Minting) : Option String :=
  ((fleet.service minting.worker minting.timeNs).createJwtToken minting.payload
    minting.timeNs).toOption.map SignedToken.compact

/-- The tokens issued in a run. -/
def Fleet.issued (fleet : Fleet) (run : List Minting) : List String :=
  run.filterMap fleet.mint

/-- The id in the header of a token. -/
def headerJti (jwt : JwtLibrary) (token : String) : Option String :=
  (jwt.unverifiedHeader token).toOption.bind TokenHeader.jti

/-- Every service with this library that decodes a token finds the id of its
header in the claims. -/
def Repeated (jwt : JwtLibrary) (token : String) : Prop :=
  ∀ (service : TokenService) (now : Int) (verifyExp : Bool) (claims : Claims),
    service.jwt = jwt → service.decodeJwtToken token now verifyExp = .ok claims →
      claims.jti = headerJti jwt token

/-- Two calls for one principal read the clock at different times. -/
def Apart (first second : Minting) : Prop :=
  ∀ userId, principal first.payload = .ok userId →
    principal second.payload = .ok userId → first.timeNs ≠ second.timeNs

/-- For each single principal the readings of a run are distinct. -/
def Spaced (run : List Minting) : Prop :=
  run.Pairwise Apart

section Issued

variable {fleet : Fleet} {minting : Minting} {token : String}

/-- Signing encodes the payload it is given. -/
theorem compact_of_signToken {service : TokenService} {payload : Claims}
    {headers : TokenHeader} {algorithm secretKey : Option String}
    {signed : SignedToken}
    (isSigned : service.manager.signToken service.jwt payload headers algorithm
      secretKey = .ok signed) :
    ∃ key resolved header, header.jti = headers.jti ∧
      signed.compact = service.jwt.encode payload key resolved header := by
  unfold SigningKeyManager.signToken at isSigned
  simp only at isSigned
  split at isSigned
  · cases isSigned
    exact ⟨_, _, headers, rfl, rfl⟩
  · split at isSigned
    · cases isSigned
    · cases keyEq : service.manager.getActiveKey with
      | error error =>
          rw [keyEq] at isSigned
          cases isSigned
      | ok activeKey =>
          rw [keyEq] at isSigned
          cases isSigned
          exact ⟨_, _, { headers with kid := some activeKey.kid }, rfl, rfl⟩

theorem headerJti_encode (jwt : JwtLibrary) (claims : Claims)
    (key algorithm : String) (header : TokenHeader) :
    headerJti jwt (jwt.encode claims key algorithm header) = header.jti := by
  obtain ⟨found, foundEq, jtiEq⟩ := jwt.header_encode claims key algorithm header
  rw [headerJti, foundEq]
  exact jtiEq

theorem mint_eq_some (minted : fleet.mint minting = some token) :
    ∃ userId key algorithm header, principal minting.payload = .ok userId ∧
      header.jti = some (userId ++ "-" ++ toString minting.timeNs) ∧
      token = fleet.jwt.encode { minting.payload with jti := header.jti } key
        algorithm header := by
  unfold Fleet.mint at minted
  cases created : (fleet.service minting.worker minting.timeNs).createJwtToken
      minting.payload minting.timeNs with
  | error error =>
      rw [created] at minted
      cases minted
  | ok signed =>
      rw [created] at minted
      cases minted
      unfold createJwtToken at created
      cases isPrincipal : principal minting.payload with
      | error error =>
          rw [isPrincipal] at created
          cases created
      | ok userId =>
          rw [isPrincipal] at created
          obtain ⟨key, algorithm, header, jtiEq, compactEq⟩ :=
            compact_of_signToken created
          refine ⟨userId, key, algorithm, header, rfl, jtiEq, ?_⟩
          rw [compactEq, jtiEq]
          rfl

theorem headerJti_of_mint (minted : fleet.mint minting = some token) :
    ∃ userId, principal minting.payload = .ok userId ∧
      headerJti fleet.jwt token =
        some (userId ++ "-" ++ toString minting.timeNs) := by
  obtain ⟨userId, key, algorithm, header, isPrincipal, jtiEq, rfl⟩ :=
    mint_eq_some minted
  exact ⟨userId, isPrincipal, (headerJti_encode ..).trans jtiEq⟩

/-- The claims of an issued token repeat the id of its header. -/
theorem repeated_of_mint (readsBack : fleet.jwt.ReadsBack)
    (minted : fleet.mint minting = some token) : Repeated fleet.jwt token := by
  obtain ⟨userId, key, algorithm, header, -, -, rfl⟩ := mint_eq_some minted
  intro service now verifyExp claims sameLibrary decoded
  obtain ⟨verifyingKey, algorithms, options, accepted⟩ :=
    decode_of_decodeJwtToken decoded
  rw [sameLibrary] at accepted
  rw [readsBack _ _ _ _ _ _ _ _ _ accepted, headerJti_encode]

/-- Calls that are apart give their tokens different ids. -/
theorem jti_ne_of_apart {other : Minting} {otherToken : String}
    (apart : Apart minting other) (minted : fleet.mint minting = some token)
    (otherMinted : fleet.mint other = some otherToken) :
    headerJti fleet.jwt token ≠ headerJti fleet.jwt otherToken := by
  intro same
  obtain ⟨userId, isPrincipal, jtiEq⟩ := headerJti_of_mint minted
  obtain ⟨otherId, isOther, otherEq⟩ := headerJti_of_mint otherMinted
  rw [jtiEq, otherEq] at same
  obtain ⟨rfl, sameTime⟩ := id_injective (Option.some.inj same)
  exact apart userId isPrincipal isOther sameTime

end Issued

/-! ## What a revoked id rejects -/

section Unaffected

variable {jwt : JwtLibrary} {bloom : List String} {jti : String}

theorem middleWare_cons {request : HttpRequest} {header : TokenHeader}
    (found : jwt.unverifiedHeader
      (lastPiece (request.session.authorization.getD "")) = .ok header)
    (other : header.jti ≠ some jti) :
    middleWare jwt (jti :: bloom) request = middleWare jwt bloom request := by
  unfold middleWare
  dsimp only
  rw [found]
  dsimp only
  cases jtiEq : header.jti with
  | none => rfl
  | some held =>
      have differs : held ≠ jti := fun same => other (same ▸ jtiEq)
      simp [differs]

/-- The statements that do not look for the id. -/
def Ignores (jti : String) : Stmt → Prop
  | .client _ => True
  | .refreshToken _ => True
  | .redis (.bloomHas _ held) => held ≠ jti
  | _ => False

theorem mem_bloomAdd {world : World} {adding worker : Nat} {held : String}
    (differs : held ≠ jti) :
    held ∈ (world.bloomAdd adding jti).bloom worker ↔
      held ∈ world.bloom worker := by
  by_cases same : worker = adding
  · subst same
    simp [World.bloomAdd, World.bloom, World.setWorker, differs]
  · simp [World.bloomAdd, World.bloom, World.setWorker,
      Function.update_of_ne same]

/-- Such statements are answered as without the id in a filter. -/
theorem perform_bloomAdd {deployment : Deployment} {adding : Nat} {stmt : Stmt}
    {world : World} (ignores : Ignores jti stmt) :
    perform deployment stmt (world.bloomAdd adding jti) =
      ((perform deployment stmt world).1,
        (perform deployment stmt world).2.bloomAdd adding jti) := by
  cases stmt with
  | client stmt => rfl
  | refreshToken stmt => rfl
  | redis stmt =>
      cases stmt with
      | bloomHas worker held =>
          have heldIff : held ∈ (world.bloomAdd adding jti).bloom worker ↔
              held ∈ world.bloom worker := mem_bloomAdd ignores
          exact Prod.ext (congrArg Except.ok (decide_eq_decide.mpr heldIff)) rfl
      | _ => exact ignores.elim
  | _ => exact ignores.elim

theorem ignores_of_table {stmt : Stmt}
    (mem : stmt.table ∈ [Table.clients, Table.refreshTokens]) :
    Ignores jti stmt := by
  cases stmt <;> simp [Stmt.table, Ignores] at mem ⊢

/-- The token of a request. -/
def presents (request : TokenRequest) (compact : String) : Prop :=
  ∀ data, request.data = .ok data → PyValue.get data "token" = .text compact

variable {deployment : Deployment} {readings : Readings} {request : TokenRequest}
  {compact : String} {worker : Nat}

/-- A token with another id makes `introspect` look for that one only. -/
theorem within_introspect
    (presented : presents request compact)
    (other : ∀ claims, deployment.tokens.decodeJwtToken compact
      (readings.utcNow 0) true = .ok claims → claims.jti ≠ some jti) :
    StatementTree.Within (Ignores jti)
      (introspect deployment worker readings request) := by
  have uses {α : Type} {program : App α}
      (within : Uses [.clients, .refreshTokens] program) :
      StatementTree.Within (Ignores jti) program :=
    within.mono fun stmt => ignores_of_table
  have refreshes (token : PyValue) (client : ClientRow) :
      StatementTree.Within (Ignores jti) (introspectRefreshToken token client) := by
    refine uses ((uses_validateRefreshToken (by simp)).bind fun found => ?_)
    cases found <;> exact StatementTree.within_done
  unfold introspect
  cases dataEq : request.data with
  | error error => exact StatementTree.within_done
  | ok data =>
      rw [ofExcept, StatementTree.bind_ok]
      simp only [presented data dataEq]
      split
      · exact StatementTree.within_done
      refine (uses (uses_validateClient (by simp))).bind fun found => ?_
      cases found with
      | none => exact StatementTree.within_done
      | some client =>
          dsimp only
          split
          · exact refreshes _ _
          cases decoded : deployment.tokens.decodeJwtToken compact
              (readings.utcNow 0) true with
          | error error => exact refreshes _ _
          | ok claims =>
              dsimp only
              split
              · exact StatementTree.within_done
              refine StatementTree.Within.bind ?_ fun revoked => ?_
              · unfold tokenIsRevoked isRevoked
                split
                case isTrue hasJti =>
                  refine ⟨?_, fun _ => trivial⟩
                  obtain ⟨held, heldEq, -⟩ := given_eq_true.mp hasJti
                  have differs := other claims decoded
                  rw [heldEq] at differs ⊢
                  exact fun same => differs (congrArg some same)
                case isFalse => exact StatementTree.within_done
              · split <;> exact StatementTree.within_done

/-- Adding the id of one token to a filter changes nothing for another:
neither what the middleware makes of a request that carries it, nor what
`introspect` answers about it. -/
structure Unaffected (jwt : JwtLibrary) (revoked other : String) : Prop where
  middleware : ∀ (jti : String) (bloom : List String) (request : HttpRequest),
    headerJti jwt revoked = some jti →
      lastPiece (request.session.authorization.getD "") = other →
      middleWare jwt (jti :: bloom) request = middleWare jwt bloom request
  introspection : ∀ (jti : String) (deployment : Deployment)
      (readings : Readings) (request : TokenRequest) (adding worker : Nat)
      (world : World),
    deployment.tokens.jwt = jwt → headerJti jwt revoked = some jti →
      presents request other →
      (App.run deployment (introspect deployment worker readings request)
          (world.bloomAdd adding jti)).1 =
        (App.run deployment (introspect deployment worker readings request)
          world).1

/-- A token whose claims repeat its own id is unaffected by another id. -/
theorem unaffected_of_ne {revoked other : String} {header : TokenHeader}
    (found : jwt.unverifiedHeader other = .ok header)
    (repeated : Repeated jwt other)
    (differs : headerJti jwt revoked ≠ headerJti jwt other) :
    Unaffected jwt revoked other where
  middleware jti bloom request revokedJti presented := by
    have shownEq : headerJti jwt other = header.jti := by
      rw [headerJti, found]
      rfl
    rw [← presented] at found
    refine middleWare_cons found ?_
    rw [← shownEq, ← revokedJti]
    exact differs.symm
  introspection jti deployment readings request adding worker world sameLibrary
      revokedJti presented := by
    have ignores : StatementTree.Within (Ignores jti)
        (introspect deployment worker readings request) := by
      refine within_introspect presented fun claims decoded => ?_
      rw [repeated _ _ _ claims sameLibrary decoded, ← revokedJti]
      exact differs.symm
    have agree (stmt : Stmt) (added world : World) (ignored : Ignores jti stmt)
        (addedEq : added = world.bloomAdd adding jti) :
        (perform deployment stmt added).1 = (perform deployment stmt world).1 ∧
          (perform deployment stmt added).2 =
            (perform deployment stmt world).2.bloomAdd adding jti := by
      rw [addedEq, perform_bloomAdd ignored]
      exact ⟨rfl, rfl⟩
    exact (ignores.run_related agree rfl).1

end Unaffected

/-! ## The result -/

variable {fleet : Fleet} {run : List Minting}

/-- The tokens of calls that are apart differ, two by two, in their ids. -/
theorem pairwise_issued (spaced : Spaced run) :
    (fleet.issued run).Pairwise fun first second =>
      headerJti fleet.jwt first ≠ headerJti fleet.jwt second := by
  refine List.Pairwise.filterMap _ ?_ spaced
  intro first second apart token minted other otherMinted
  exact jti_ne_of_apart apart minted otherMinted

theorem header_of_mem_issued {token : String} (issued : token ∈ fleet.issued run) :
    ∃ jti header, fleet.jwt.unverifiedHeader token = .ok header ∧
      header.jti = some jti := by
  obtain ⟨minting, -, minted⟩ := List.mem_filterMap.mp issued
  obtain ⟨userId, key, algorithm, header, -, jtiEq, rfl⟩ := mint_eq_some minted
  obtain ⟨found, foundEq, foundJti⟩ :=
    fleet.jwt.header_encode { minting.payload with jti := header.jti } key
      algorithm header
  exact ⟨_, found, foundEq, foundJti.trans jtiEq⟩

theorem repeated_of_mem_issued (readsBack : fleet.jwt.ReadsBack) {token : String}
    (issued : token ∈ fleet.issued run) : Repeated fleet.jwt token := by
  obtain ⟨minting, -, minted⟩ := List.mem_filterMap.mp issued
  exact repeated_of_mint readsBack minted

theorem unaffected_of_mem_issued (readsBack : fleet.jwt.ReadsBack)
    {token other : String} (issued : other ∈ fleet.issued run)
    (differs : headerJti fleet.jwt token ≠ headerJti fleet.jwt other) :
    Unaffected fleet.jwt token other := by
  obtain ⟨jti, header, found, -⟩ := header_of_mem_issued issued
  exact unaffected_of_ne found (repeated_of_mem_issued readsBack issued) differs

/-- The ids of a run are distinct, a revoked one rejects no other token, and
every token has an id in its header, which the claims it decodes to repeat. -/
theorem revocation_precise (fleet : Fleet) (readsBack : fleet.jwt.ReadsBack)
    (run : List Minting) (spaced : Spaced run) :
    ((fleet.issued run).map (headerJti fleet.jwt)).Nodup ∧
      ((fleet.issued run).Pairwise fun first second =>
        Unaffected fleet.jwt first second ∧ Unaffected fleet.jwt second first) ∧
      ∀ token ∈ fleet.issued run,
        (∃ jti header, fleet.jwt.unverifiedHeader token = .ok header ∧
          header.jti = some jti) ∧ Repeated fleet.jwt token := by
  have distinct := @pairwise_issued fleet run spaced
  refine ⟨List.pairwise_map.mpr distinct, ?_, fun token issued =>
    ⟨header_of_mem_issued issued, repeated_of_mem_issued readsBack issued⟩⟩
  refine distinct.imp_of_mem fun first second differs => ?_
  exact ⟨unaffected_of_mem_issued readsBack second differs,
    unaffected_of_mem_issued readsBack first differs.symm⟩

/-- Two workers that sign with their secrets. -/
def twoWorkers : Fleet where
  jwt := KeyTokens.shownJwt KeyTokens.markedKeys.publicOf
  manager _ _ := ⟨"HS256", "secret", "", []⟩
  jwtSecret _ := "secret"

theorem readsBack_shownJwt (publicOf : String → String) :
    (KeyTokens.shownJwt publicOf).ReadsBack := by
  intro claims key algorithm header verifyingKey algorithms options now decoded
    accepted
  simp only [KeyTokens.shownJwt, KeyTokens.contentOf_write] at accepted
  split_ifs at accepted <;> exact (Except.ok.inj accepted).symm

/-- Principals whose names end in digits, one with a reading of the other; the
second payload carries the id of the first token. -/
def dashedRun : List Minting := [
  ⟨0, { sub := some "a-1" }, 11⟩,
  ⟨1, { sub := some "a", jti := some "a-1-11" }, 11⟩,
  ⟨1, { sub := some "a-1" }, 1⟩]

theorem spaced_dashedRun : Spaced dashedRun := by
  simp [Spaced, dashedRun, Apart, principal, orElse, given, filled]

/-- The worker signs with its secret; either worker decodes the token. -/
theorem mint_twoWorkers {minting : Minting} {userId : String}
    (isPrincipal : principal minting.payload = .ok userId)
    (noExp : minting.payload.exp = none) (noIat : minting.payload.iat = none) :
    ∃ token, twoWorkers.mint minting = some token ∧
      ∀ worker now, ∃ claims, (twoWorkers.service worker 0).decodeJwtToken token
        now true = .ok claims := by
  have symmetric : upper "HS256" = "HS256" := by decide
  let jti := userId ++ "-" ++ toString minting.timeNs
  let claims : Claims := { minting.payload with jti := some jti }
  refine ⟨KeyTokens.write (claims, "secret", "HS256", { jti := some jti }), ?_,
    fun worker now => ⟨claims, ?_⟩⟩
  · unfold Fleet.mint createJwtToken
    rw [isPrincipal]
    simp [twoWorkers, Fleet.service, SigningKeyManager.signToken, orElse, given,
      filled, bind, Except.bind, symmetric, KeyTokens.shownJwt, Except.toOption,
      claims, jti]
  · simp [decodeJwtToken, SigningKeyManager.decodeToken, twoWorkers,
      Fleet.service, KeyTokens.shownJwt, KeyTokens.dot_mem_write, orElse, given,
      filled, symmetric, claims, noExp, noIat, bind, Except.bind]

theorem plain_dashedRun : ∀ minting ∈ dashedRun, ∃ userId,
    principal minting.payload = .ok userId ∧ minting.payload.exp = none ∧
      minting.payload.iat = none := by
  simp [dashedRun, principal, orElse, given, filled]

theorem length_issued_dashedRun : (twoWorkers.issued dashedRun).length = 3 := by
  have all : ∀ minting ∈ dashedRun, (twoWorkers.mint minting).isSome = true := by
    intro minting mem
    obtain ⟨userId, isPrincipal, noExp, noIat⟩ := plain_dashedRun minting mem
    obtain ⟨token, minted, -⟩ := mint_twoWorkers isPrincipal noExp noIat
    rw [minted]
    rfl
  exact List.filterMap_length_eq_length.mpr all

/-- The three tokens decode to claims with the ids of their headers. -/
theorem revocation_precise_dashedRun :
    ((twoWorkers.issued dashedRun).map (headerJti twoWorkers.jwt)).Nodup ∧
      (twoWorkers.issued dashedRun).length = 3 ∧
      ∀ token ∈ twoWorkers.issued dashedRun, ∃ claims,
        (twoWorkers.service 0 0).decodeJwtToken token 0 true = .ok claims ∧
        claims.jti = headerJti twoWorkers.jwt token := by
  have readsBack : twoWorkers.jwt.ReadsBack := readsBack_shownJwt _
  obtain ⟨distinct, -, carried⟩ :=
    revocation_precise twoWorkers readsBack dashedRun spaced_dashedRun
  refine ⟨distinct, length_issued_dashedRun, fun token issued => ?_⟩
  obtain ⟨minting, mem, minted⟩ := List.mem_filterMap.mp issued
  obtain ⟨userId, isPrincipal, noExp, noIat⟩ := plain_dashedRun minting mem
  obtain ⟨made, madeEq, decodes⟩ := mint_twoWorkers isPrincipal noExp noIat
  have sameToken : made = token := Option.some.inj (madeEq.symm.trans minted)
  obtain ⟨claims, decoded⟩ := decodes 0 0
  rw [sameToken] at decoded
  have sameLibrary : (twoWorkers.service 0 0).jwt = twoWorkers.jwt := rfl
  have sameJti := (carried token issued).2 (twoWorkers.service 0 0) 0 true claims
    sameLibrary decoded
  exact ⟨claims, decoded, sameJti⟩

end TokenIds

end HexIam
