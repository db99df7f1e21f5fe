import HexIam.CallPool
import HexIam.FederatedSignIn

/-!
# Concurrent federated sign-ins

`_find_or_create_local_user` looks a link up, finds or makes a user, and stores
a link, in separate statements.  When another sign-in of the same external
identity stores the link in between, `ON CONFLICT` keeps the other's user, but
the call returns its own.  In the interleavings where no upsert meets a link of
another user, every call returns the user of the stored link; in any other one
some call does not.
-/

namespace HexIam

open StatementTree CallPool GuardedRun

namespace ConcurrentSignIns

open FederatedSignIn (Subject idp linkedUser)

/-! ## Runs -/

/-- A call of `_find_or_create_local_user`. -/
structure SignInCall where
  db : Connection
  readings : Readings
  provider : ProviderRow
  claims : UpstreamClaims

/-- Calls in one tenant over one database.  A statement may fail, and the clock
of the database advances. -/
def system (deployment : Deployment) (tenantId : String) :
    System Empty SignInCall Stmt Stmt.Resp Exn UserRow World Nat where
  site _ := none
  program call := findOrCreateLocalUser deployment call.db call.readings tenantId
    call.provider call.claims
  perform := perform deployment
  mayFail _ _ := true
  crash site _ := site.elim
  change seconds world := some { world with now := world.now + seconds }

abbrev SignInPool := Pool SignInCall Stmt Stmt.Resp Exn UserRow World
abbrev SignInEvent := Event Empty SignInCall Exn Nat

/-! ## The property -/

/-- The external identity of claims is linked to the user. -/
def LinkedTo (table : IdentityTable) (tenantId providerId : String)
    (claims : UpstreamClaims) (user : UserRow) : Prop :=
  ∃ subject row, Subject claims subject ∧
    table.lookup (tenantId, providerId, subject) = some row ∧
    row.userId = user.id

/-- Every call that has returned a user has a link of this user. -/
def Agreed (tenantId : String) (pool : SignInPool) : Prop :=
  ∀ id call user, pool.Holds id call → call.rest = .done (.ok user) →
    LinkedTo pool.world.identities tenantId call.request.provider.id
      call.request.claims user

/-- Links stay, and keep their users. -/
def LinksKept (before after : IdentityTable) : Prop :=
  ∀ key row, before.lookup key = some row →
    ∃ kept, after.lookup key = some kept ∧ kept.userId = row.userId

/-- No link changes its user at an event. -/
def UsersKept (deployment : Deployment) (tenantId : String) (pool : SignInPool)
    (event : SignInEvent) : Prop :=
  ∀ next, step (system deployment tenantId) pool event = some next →
    LinksKept pool.world.identities next.world.identities

/-! ## The condition -/

/-- The statement does not meet a link of another user than the one it would
link. -/
def MeetsNoOther (world : World) : Stmt → Prop
  | .identity _ (.upsert _ tenantId providerId userId (some subject) _) =>
      ∀ row, world.identities.lookup (tenantId, providerId, subject) = some row →
        row.userId = userId
  | _ => True

/-- A call that advances does not meet a link of another user. -/
def Unclaimed (pool : SignInPool) : SignInEvent → Prop
  | .advance id => ∀ call stmt, pool.Holds id call → call.Next stmt →
      MeetsNoOther pool.world stmt
  | _ => True

/-! ## What is left of a call -/

section Programs

variable {deployment : Deployment} {tenantId providerId : String}
variable {claims : UpstreamClaims}

/-- A subject that `_find_or_create_local_user` binds. -/
def Bound (claims : UpstreamClaims) (subject : Option String) : Prop :=
  ∃ sub, (claims.find? fun claim => claim.1 = "sub").map Prod.snd = some sub ∧
    bindText sub = .ok subject

theorem Bound.isSubject {subject : String} (bound : Bound claims (some subject)) :
    Subject claims subject := by
  obtain ⟨sub, subEq, boundEq⟩ := bound
  exact subEq.trans (congrArg some (bindText_eq_some.mp boundEq))

/-- What is left of a call that has not returned a user yet: it returns the
user of the link it finds, or the one whose link it stores. -/
inductive Unfinished (tenantId providerId : String) (claims : UpstreamClaims) :
    App UserRow → Prop
  | fails (error : Exn) : Unfinished tenantId providerId claims
      (.done (.error error))
  | looksUp (db : Connection) (subject : Option String)
      (next : Except Exn (Option UserRow) → App UserRow)
      (bound : Bound claims subject)
      (found : ∀ user, next (.ok (some user)) = .done (.ok user))
      (missing : Unfinished tenantId providerId claims (next (.ok none)))
      (failed : ∀ error, next (.error error) = .done (.error error)) :
      Unfinished tenantId providerId claims
        (.perform (.identity db (.linkedUser tenantId providerId subject)) next)
  | links (db : Connection) (linkId : String) (subject email : Option String)
      (user : UserRow) (next : Except Exn Unit → App UserRow)
      (bound : Bound claims subject)
      (stored : next (.ok ()) = .done (.ok user))
      (failed : ∀ error, next (.error error) = .done (.error error)) :
      Unfinished tenantId providerId claims
        (.perform (.identity db
          (.upsert linkId tenantId providerId user.id subject email)) next)
  | asks (stmt : Stmt) (next : Except Exn stmt.Resp → App UserRow)
      (other : stmt.table ≠ .identities)
      (rest : ∀ answer, Unfinished tenantId providerId claims (next answer)) :
      Unfinished tenantId providerId claims (.perform stmt next)

/-- A program without statements on links comes before the rest of a call. -/
theorem unfinished_bind {α : Type} (tables : List Table) {program : App α}
    {continuation : α → App UserRow} (uses : Uses tables program)
    (unused : .identities ∉ tables)
    (onValue : ∀ value,
      Unfinished tenantId providerId claims (continuation value)) :
    Unfinished tenantId providerId claims (program >>= continuation) := by
  induction program with
  | done result =>
      cases result with
      | ok value => exact onValue value
      | error error => exact .fails error
  | perform stmt next ih =>
      refine .asks stmt _ (fun isIdentities => unused (isIdentities ▸ uses.1)) ?_
      exact fun answer => ih answer (uses.2 answer)

theorem unfinished_findOrCreateLocalUser {db : Connection} {readings : Readings}
    {provider : ProviderRow} :
    Unfinished tenantId provider.id claims
      (findOrCreateLocalUser deployment db readings tenantId provider claims) := by
  unfold findOrCreateLocalUser
  split
  case h_1 => exact .fails _
  case h_2 sub subEq =>
    cases boundEq : bindText sub with
    | error error => exact .fails error
    | ok subject =>
        have bound : Bound claims subject := ⟨sub, subEq, boundEq⟩
        refine .looksUp db subject _ bound (fun user => rfl) ?_ fun error => rfl
        change Unfinished tenantId provider.id claims (if _ then _ else _)
        split
        · exact .fails _
        · refine unfinished_bind [.users] (uses_linkOrProvision (by decide))
            (by decide) fun user => ?_
          refine unfinished_bind [] (uses_ofExcept _) (by decide) fun email => ?_
          exact .links db _ subject email user _ bound rfl fun error => rfl

/-- A statement and an answer after which a call returns the user. -/
inductive Returns (tenantId providerId : String) (claims : UpstreamClaims)
    (user : UserRow) : LogEntry Stmt Stmt.Resp Exn → Prop
  | found (db : Connection) (subject : Option String)
      (bound : Bound claims subject) :
      Returns tenantId providerId claims user
        ⟨.identity db (.linkedUser tenantId providerId subject), .ok (some user)⟩
  | stored (db : Connection) (linkId : String) (subject email : Option String)
      (bound : Bound claims subject) :
      Returns tenantId providerId claims user
        ⟨.identity db (.upsert linkId tenantId providerId user.id subject email),
          .ok ()⟩

theorem Unfinished.answered {stmt : Stmt}
    {next : Except Exn stmt.Resp → App UserRow}
    (unfinished : Unfinished tenantId providerId claims (.perform stmt next))
    (answer : Except Exn stmt.Resp) :
    Unfinished tenantId providerId claims (next answer) ∨
      ∃ user, next answer = .done (.ok user) ∧
        Returns tenantId providerId claims user ⟨stmt, answer⟩ := by
  cases unfinished with
  | looksUp db subject _ bound found missing failed =>
      cases answer with
      | error error => exact .inl (failed error ▸ .fails error)
      | ok answer =>
          cases answer with
          | none => exact .inl missing
          | some user => exact .inr ⟨user, found user, .found db subject bound⟩
  | links db linkId subject email user _ bound stored failed =>
      cases answer with
      | error error => exact .inl (failed error ▸ .fails error)
      | ok answer =>
          exact .inr ⟨user, stored, .stored db linkId subject email bound⟩
  | asks _ _ other rest => exact .inl (rest answer)

end Programs

/-! ## What statements do to links -/

section Statements

variable {deployment : Deployment} {world : World}

theorem LinkedTo.kept {before after : IdentityTable}
    {tenantId providerId : String} {claims : UpstreamClaims} {user : UserRow}
    (linked : LinkedTo before tenantId providerId claims user)
    (kept : LinksKept before after) :
    LinkedTo after tenantId providerId claims user := by
  obtain ⟨subject, row, isSubject, rowEq, isUser⟩ := linked
  obtain ⟨held, heldEq, sameUser⟩ := kept _ row rowEq
  exact ⟨subject, held, isSubject, heldEq, sameUser.trans isUser⟩

theorem linksKept_of_eq {before after : IdentityTable} (same : after = before) :
    LinksKept before after :=
  fun _ row found => ⟨row, same ▸ found, rfl⟩

theorem linksKept_upsert (table : IdentityTable) (row : IdentityRow)
    (email : Option String) :
    LinksKept table (table.upsert row (IdentityRow.setEmail email)
      (IdentityRow.setEmail_key email)) := by
  intro key held found
  rw [KeyedTable.lookup_upsert, found]
  split
  · exact ⟨_, rfl, rfl⟩
  · exact ⟨held, rfl, rfl⟩

/-- No statement removes a link or changes its user. -/
theorem linksKept_perform {stmt : Stmt} :
    LinksKept world.identities (perform deployment stmt world).2.identities := by
  by_cases other : stmt.table = .identities
  case neg => exact linksKept_of_eq (identities_perform deployment other)
  case pos =>
    cases stmt with
    | identity db stmt =>
        cases stmt with
        | linkedUser => exact linksKept_of_eq rfl
        | upsert id tenantId providerId userId subject email =>
            cases subject with
            | none => exact linksKept_of_eq rfl
            | some subject =>
                change LinksKept world.identities (IdentityStmt.perform db world
                  (.upsert id tenantId providerId userId (some subject) email)).2
                rcases @TenantCoherence.perform_upsert world db id tenantId
                  providerId userId subject email with
                  ⟨-, upserted⟩ | ⟨-, unchanged⟩
                · rw [upserted]
                  exact linksKept_upsert _ _ _
                · exact linksKept_of_eq unchanged
    | _ => cases other

variable {tenantId providerId : String} {claims : UpstreamClaims}

/-- A call that returns at a statement returns the linked user exactly when the
statement does not meet a link of another one. -/
theorem linked_iff_of_returns {stmt : Stmt} {user : UserRow}
    (returns : Returns tenantId providerId claims user
      ⟨stmt, (perform deployment stmt world).1⟩) :
    LinkedTo (perform deployment stmt world).2.identities tenantId providerId
      claims user ↔ MeetsNoOther world stmt := by
  generalize answerEq : (perform deployment stmt world).1 = answer at returns
  cases returns with
  | found db subject bound =>
      refine iff_of_true ?_ trivial
      have foundEq : subject.bind (linkedUser world db tenantId providerId) =
          some user := Except.ok.inj answerEq
      obtain ⟨subject, rfl, linked⟩ := Option.bind_eq_some_iff.mp foundEq
      obtain ⟨row, rowEq, seen⟩ := Option.bind_eq_some_iff.mp linked
      have isUser := (Option.filter_eq_some_iff.mp seen).1
      exact ⟨subject, row, bound.isSubject, rowEq,
        (KeyedTable.lookup_eq_some.mp isUser).2.symm⟩
  | stored db linkId subject email bound =>
      cases subject with
      | none => cases answerEq
      | some subject =>
          rcases @TenantCoherence.perform_upsert world db linkId tenantId
            providerId user.id subject email with
            ⟨-, upserted⟩ | ⟨⟨⟨error, refused⟩, -⟩, -⟩
          · have held : (perform deployment (.identity db (.upsert linkId tenantId
                providerId user.id (some subject) email)) world).2.identities.lookup
                  (tenantId, providerId, subject) =
                some ((world.identities.lookup
                  (tenantId, providerId, subject)).elim
                    ⟨linkId, tenantId, providerId, user.id, subject, email⟩
                    (IdentityRow.setEmail email)) := by
              change (IdentityStmt.perform db world (.upsert linkId tenantId
                providerId user.id (some subject) email)).2.lookup _ = _
              rw [upserted, KeyedTable.lookup_upsert]
              exact if_pos rfl
            constructor
            · rintro ⟨other, row, isSubject, rowEq, sameUser⟩ old oldEq
              obtain rfl : other = subject := PyValue.text.inj
                (Option.some.inj (isSubject.symm.trans bound.isSubject))
              rw [held, oldEq] at rowEq
              cases rowEq
              exact sameUser
            · intro meets
              refine ⟨subject, _, bound.isSubject, held, ?_⟩
              cases oldEq : world.identities.lookup
                  (tenantId, providerId, subject) with
              | none => rfl
              | some old => exact meets old oldEq
          · cases answerEq.symm.trans refused

theorem meetsNoOther_of_unfinished {stmt : Stmt}
    {next : Except Exn stmt.Resp → App UserRow}
    (unfinished : Unfinished tenantId providerId claims (.perform stmt next))
    (rest : Unfinished tenantId providerId claims
      (next (perform deployment stmt world).1)) : MeetsNoOther world stmt := by
  cases unfinished with
  | looksUp => trivial
  | asks _ _ other _ =>
      cases stmt with
      | identity db stmt => exact absurd rfl other
      | _ => trivial
  | links db linkId subject email user next bound stored failed =>
      cases subject with
      | none => trivial
      | some subject =>
          rcases @TenantCoherence.perform_upsert world db linkId tenantId
            providerId user.id subject email with
            ⟨done, -⟩ | ⟨⟨-, absent⟩, -⟩
          · have returned : next (perform deployment (.identity db (.upsert linkId
                tenantId providerId user.id (some subject) email)) world).1 =
                .done (.ok user) := (congrArg next done).trans stored
            rw [returned] at rest
            cases rest
          · intro row found
            cases found.symm.trans absent

/-- A call that raises has stored no link. -/
theorem Unfinished.identities_of_error {program : App UserRow} {after : World}
    {error : Exn} (unfinished : Unfinished tenantId providerId claims program)
    (ran : App.run deployment program world = (.error error, after)) :
    after.identities = world.identities := by
  induction unfinished generalizing world with
  | fails raised =>
      cases ran
      rfl
  | looksUp db subject next bound found missing failed ih =>
      have rest : App.run deployment (next (.ok (subject.bind
          (linkedUser world db tenantId providerId)))) world =
          (.error error, after) := ran
      cases linked : subject.bind (linkedUser world db tenantId providerId) with
      | none =>
          rw [linked] at rest
          exact ih rest
      | some user =>
          rw [linked, found user] at rest
          cases rest
  | links db linkId subject email user next bound stored failed =>
      cases subject with
      | none =>
          have rest : App.run deployment (next (.error
              (.database "null value in external_subject"))) world =
              (.error error, after) := ran
          rw [failed] at rest
          cases rest
          rfl
      | some subject =>
          have rest : App.run deployment (next (IdentityStmt.perform db world
              (.upsert linkId tenantId providerId user.id (some subject) email)).1)
              { world with identities := (IdentityStmt.perform db world (.upsert
                linkId tenantId providerId user.id (some subject) email)).2 } =
              (.error error, after) := ran
          rcases @TenantCoherence.perform_upsert world db linkId tenantId
            providerId user.id subject email with
            ⟨done, -⟩ | ⟨⟨⟨refusal, refused⟩, -⟩, unchanged⟩
          · rw [done, stored] at rest
            cases rest
          · rw [refused, failed, unchanged] at rest
            cases rest
            rfl
  | asks stmt next other rest ih =>
      have left := ih (perform deployment stmt world).1 ran
      exact left.trans (identities_perform deployment other)

end Statements

/-! ## Pools -/

section Pools

variable {deployment : Deployment} {tenantId : String} {pool next : SignInPool}

/-- Every call has returned, or is on its way to. -/
def Shaped (tenantId : String) (pool : SignInPool) : Prop :=
  ∀ id call, pool.Holds id call →
    Unfinished tenantId call.request.provider.id call.request.claims call.rest ∨
      ∃ user, call.rest = .done (.ok user)

theorem linksKept_step {event : SignInEvent}
    (stepEq : step (system deployment tenantId) pool event = some next) :
    LinksKept pool.world.identities next.world.identities := by
  cases event with
  | start id request =>
      obtain ⟨-, rfl⟩ := step_start.mp stepEq
      exact linksKept_of_eq rfl
  | advance id =>
      obtain ⟨call, stmt, rest, -, -, -, rfl⟩ := step_advance.mp stepEq
      exact linksKept_perform
  | fail id error =>
      obtain ⟨call, stmt, rest, -, -, -, -, rfl⟩ := step_fail.mp stepEq
      exact linksKept_of_eq rfl
  | crash site => exact site.elim
  | change seconds =>
      obtain ⟨world, changed, rfl⟩ := step_change.mp stepEq
      cases Option.some.inj changed
      exact linksKept_of_eq rfl

theorem shaped_step {event : SignInEvent} (shaped : Shaped tenantId pool)
    (stepEq : step (system deployment tenantId) pool event = some next) :
    Shaped tenantId next := by
  have answered {id : Nat} {call : Call SignInCall Stmt Stmt.Resp Exn UserRow}
      {stmt : Stmt} {rest : Except Exn stmt.Resp → App UserRow}
      (holds : pool.Holds id call) (restEq : call.rest = .perform stmt rest)
      (world : World) (answer : Except Exn stmt.Resp) :
      Shaped tenantId (({ pool with world := world }).setCall id
        (call.answered stmt rest answer)) := by
    intro other found foundHolds
    rcases Pool.holds_setCall.mp foundHolds with ⟨-, rfl⟩ | ⟨-, foundHolds⟩
    · rcases shaped id call holds with unfinished | ⟨user, returned⟩
      · rw [restEq] at unfinished
        exact (unfinished.answered answer).imp_right
          fun ⟨user, returned, _⟩ => ⟨user, returned⟩
      · cases restEq.symm.trans returned
    · exact shaped other found foundHolds
  cases event with
  | start id request =>
      obtain ⟨-, rfl⟩ := step_start.mp stepEq
      intro other found holds
      rcases Pool.holds_setCall.mp holds with ⟨-, rfl⟩ | ⟨-, holds⟩
      · exact .inl unfinished_findOrCreateLocalUser
      · exact shaped other found holds
  | advance id =>
      obtain ⟨call, stmt, rest, holds, -, restEq, rfl⟩ := step_advance.mp stepEq
      exact answered holds restEq _ _
  | fail id error =>
      obtain ⟨call, stmt, rest, holds, -, restEq, -, rfl⟩ := step_fail.mp stepEq
      exact answered holds restEq _ _
  | crash site => exact site.elim
  | change seconds =>
      obtain ⟨world, -, rfl⟩ := step_change.mp stepEq
      exact shaped

/-- A call that has not returned leaves the others as they agree. -/
theorem agreed_setCall {id : Nat} {world : World}
    {call : Call SignInCall Stmt Stmt.Resp Exn UserRow}
    (agreed : Agreed tenantId pool)
    (kept : LinksKept pool.world.identities world.identities)
    (linked : ∀ user, call.rest = .done (.ok user) →
      LinkedTo world.identities tenantId call.request.provider.id
        call.request.claims user) :
    Agreed tenantId (({ pool with world := world }).setCall id call) := by
  intro other found user holds returned
  rcases Pool.holds_setCall.mp holds with ⟨-, rfl⟩ | ⟨-, holds⟩
  · exact linked user returned
  · exact (agreed other found user holds returned).kept kept

/-- An unfinished call has returned nothing. -/
theorem Unfinished.not_returned {providerId : String} {claims : UpstreamClaims}
    {rest : App UserRow} (unfinished : Unfinished tenantId providerId claims rest)
    (user : UserRow) : rest ≠ .done (.ok user) := by
  rintro rfl
  cases unfinished

theorem unclaimed_of_meetsNoOther {id : Nat}
    {call : Call SignInCall Stmt Stmt.Resp Exn UserRow} {stmt : Stmt}
    {rest : Except Exn stmt.Resp → App UserRow} (holds : pool.Holds id call)
    (restEq : call.rest = .perform stmt rest)
    (meets : MeetsNoOther pool.world stmt) : Unclaimed pool (.advance id) := by
  intro found other foundHolds isNext
  obtain ⟨rfl, rfl⟩ := holds.next_unique restEq foundHolds isNext
  exact meets

/-- After a statement of a call the pool agrees exactly when the statement has
not met a link of another user. -/
theorem agreed_advance_iff {id : Nat} (shaped : Shaped tenantId pool)
    (agreed : Agreed tenantId pool)
    (stepEq : step (system deployment tenantId) pool (.advance id) =
      some next) :
    Agreed tenantId next ↔ Unclaimed pool (.advance id) := by
  obtain ⟨call, stmt, rest, holds, alive, restEq, rfl⟩ := step_advance.mp stepEq
  have unclaimed_iff : Unclaimed pool (.advance id) ↔
      MeetsNoOther pool.world stmt :=
    ⟨fun unclaimed => unclaimed call stmt holds ⟨alive, rest, restEq⟩,
      unclaimed_of_meetsNoOther holds restEq⟩
  rw [unclaimed_iff]
  have kept : LinksKept pool.world.identities
      (perform deployment stmt pool.world).2.identities := linksKept_perform
  rcases shaped id call holds with unfinished | ⟨user, returned⟩
  case inr => cases restEq.symm.trans returned
  rw [restEq] at unfinished
  rcases unfinished.answered (perform deployment stmt pool.world).1 with
    left | ⟨user, returned, returns⟩
  · refine iff_of_true ?_ (meetsNoOther_of_unfinished unfinished left)
    exact agreed_setCall agreed kept
      fun user returned => absurd returned (left.not_returned user)
  · rw [← linked_iff_of_returns returns]
    constructor
    · intro agrees
      refine agrees id (call.answered stmt rest _) user ?_ returned
      exact Pool.holds_setCall.mpr (.inl ⟨rfl, rfl⟩)
    · intro linked
      refine agreed_setCall agreed kept fun other otherEq => ?_
      cases returned.symm.trans otherEq
      exact linked

theorem agreed_step_iff {event : SignInEvent} (shaped : Shaped tenantId pool)
    (agreed : Agreed tenantId pool)
    (stepEq : step (system deployment tenantId) pool event = some next) :
    Agreed tenantId next ↔ Unclaimed pool event := by
  cases event with
  | advance id => exact agreed_advance_iff shaped agreed stepEq
  | start id request =>
      obtain ⟨-, rfl⟩ := step_start.mp stepEq
      refine iff_of_true ?_ trivial
      refine agreed_setCall agreed (linksKept_of_eq rfl) fun user returned => ?_
      exact absurd returned (unfinished_findOrCreateLocalUser.not_returned user)
  | fail id error =>
      obtain ⟨call, stmt, rest, holds, -, restEq, -, rfl⟩ := step_fail.mp stepEq
      refine iff_of_true ?_ trivial
      refine agreed_setCall agreed (linksKept_of_eq rfl) fun user returned => ?_
      rcases shaped id call holds with unfinished | ⟨other, ended⟩
      · rw [restEq] at unfinished
        rcases unfinished.answered (.error error) with left | ⟨_, -, returns⟩
        · exact absurd returned (left.not_returned user)
        · cases returns
      · cases restEq.symm.trans ended
  | crash site => exact site.elim
  | change seconds =>
      obtain ⟨world, changed, rfl⟩ := step_change.mp stepEq
      cases Option.some.inj changed
      exact iff_of_true agreed trivial

end Pools

/-! ## The result -/

/-- A run of concurrent sign-ins keeps the users of all links, and its calls
agree with the links exactly when none meets a link of another user. -/
theorem agreed_iff_unclaimed (deployment : Deployment) (tenantId : String)
    (world : World) (events : List SignInEvent) {final : SignInPool}
    (runs : exec (step (system deployment tenantId)) (.init world) events =
      some final) :
    (Always (step (system deployment tenantId)) (Agreed tenantId) (.init world)
        events ∧
      Along (step (system deployment tenantId)) (UsersKept deployment tenantId)
        (.init world) events) ↔
      Along (step (system deployment tenantId)) Unclaimed (.init world)
        events := by
  have kept : Along (step (system deployment tenantId))
      (UsersKept deployment tenantId) (.init world) events :=
    along_of_always (fun _ _ _ _ stepEq => linksKept_step stepEq)
      (@always_of_invariant _ _ (step (system deployment tenantId))
        (fun _ => True) (fun _ _ _ _ _ => trivial) _ _ trivial)
  rw [and_iff_left kept]
  refine always_iff_along_of_invariant
    (fun _ _ _ shaped stepEq => shaped_step shaped stepEq)
    (fun _ _ _ shaped agreed stepEq => agreed_step_iff shaped agreed stepEq)
    ?_ ?_ runs
  · exact fun _ _ holds => absurd holds Pool.not_holds_init
  · exact fun _ _ _ holds => absurd holds Pool.not_holds_init

/-! ## Two sign-ins of one identity -/

/-- A tenant with an identity provider and no users. -/
def noUsers : World where
  tenants := .single { id := "t" }
  providers := .single idp

/-- A sign-in with an email; a user and a link it makes have the given ids. -/
def signIn (userId linkId email : String) : SignInCall where
  db := .owner
  readings := {
    utcNow := fun _ => 0
    timeNs := fun _ => 0
    secret
      | 0 => userId
      | 1 => "password"
      | _ => linkId }
  provider := idp
  claims := [("sub", .text "s"), ("email", .text email)]

/-- A sign-in, and one with another email after it. -/
def inTurn : List SignInEvent :=
  [.start 0 (signIn "u0" "l0" "old@t"), .advance 0, .advance 0, .advance 0,
    .advance 0, .advance 0, .start 1 (signIn "u1" "l1" "new@t"), .advance 1]

/-- The second sign-in gets the user of the first. -/
theorem sign_ins_in_turn_agree :
    Always (step (system (.plain []) "t")) (Agreed "t") (.init noUsers) inTurn ∧
      Along (step (system (.plain []) "t")) (UsersKept (.plain []) "t")
        (.init noUsers) inTurn := by
  refine (agreed_iff_unclaimed (.plain []) "t" noUsers inTurn rfl).mpr ?_
  refine along_of_step rfl trivial (along_of_step rfl ?_ (along_of_step rfl ?_
    (along_of_step rfl ?_ (along_of_step rfl ?_ (along_of_step rfl ?_
      (along_of_step rfl trivial (along_of_step rfl ?_ (along_nil _))))))))
  · exact unclaimed_of_meetsNoOther rfl rfl trivial
  · exact unclaimed_of_meetsNoOther rfl rfl trivial
  · exact unclaimed_of_meetsNoOther rfl rfl trivial
  · exact unclaimed_of_meetsNoOther rfl rfl trivial
  · refine unclaimed_of_meetsNoOther rfl rfl ?_
    rintro row ⟨⟩
  · exact unclaimed_of_meetsNoOther rfl rfl trivial

/-- Both sign-ins look the link up before either stores it. -/
def overlapping : List SignInEvent :=
  [.start 0 (signIn "u0" "l0" "old@t"), .start 1 (signIn "u1" "l1" "new@t"),
    .advance 0, .advance 1, .advance 0, .advance 0, .advance 0, .advance 0,
    .advance 1, .advance 1, .advance 1, .advance 1]

/-- The second sign-in returns its own user, and the link is of the other. -/
theorem overlapping_sign_ins_disagree :
    ¬ (Always (step (system (.plain []) "t")) (Agreed "t") (.init noUsers)
        overlapping ∧
      Along (step (system (.plain []) "t")) (UsersKept (.plain []) "t")
        (.init noUsers) overlapping) := by
  rintro ⟨always, -⟩
  have runs : exec (step (system (.plain []) "t")) (.init noUsers) overlapping =
      some _ := rfl
  have agreed := always_iff.mp always overlapping [] _
    (List.append_nil _).symm runs
  obtain ⟨subject, row, isSubject, rowEq, isUser⟩ := agreed 1 _ _ rfl rfl
  cases isSubject
  cases rowEq
  exact absurd isUser (by decide)

end ConcurrentSignIns

end HexIam
