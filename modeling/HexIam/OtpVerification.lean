import HexIam.Database
import HexIam.GuardedRun

/-!
# Verification of one-time codes

`verify_otp` finds a secret by the user's email and the name of a client, and
not by the tenant.  It refuses a code within 45 seconds after `last_used_at`,
and when it accepts one it writes `updated_at`; nothing writes `last_used_at`.
A code is accepted in its own interval and the adjacent ones, so a run accepts
each code once and keeps the tenants apart exactly if no two calls present one
code while it counts, and no other tenant's secret is found.
-/

namespace HexIam

open GuardedRun

namespace OtpVerification

/-! ## Rows, clocks and libraries -/

/-- A row of `otp_secrets`, with the columns that the queries use. -/
structure OtpRow where
  tenantId : String
  userEmail : String
  issuer : String
  otpSecret : String
  isActive : Bool
  updatedAt : Option Int
  lastUsedAt : Option Int
  deriving DecidableEq, Repr

/-- `OTP_INTERVAL`, in microseconds like all times here. -/
def otpInterval : Int :=
  45 * 1000000

/-- The cipher, and pyotp: the interval, if any, whose code a text is. -/
structure OtpLibrary where
  decrypt : String → Option String
  ownInterval : (secret code : String) → Option Int

/-- `totp.verify(otp_code, valid_window=1)`. -/
def OtpLibrary.verify (library : OtpLibrary) (secret code : String)
    (now : Int) : Bool :=
  match library.ownInterval secret code with
  | none => false
  | some own =>
      let current := now / otpInterval
      own - 1 ≤ current && current ≤ own + 1

/-- A call of `verify_otp`, with the three times it reads, and the place that the
row it is answered with has among those that match. -/
structure OtpCall where
  aud : String
  userEmail : String
  otpCode : String
  tenantId : String
  queriedAt : Int
  verifiedAt : Int
  updatedAt : Int
  place : Nat
  queried_le : queriedAt ≤ verifiedAt
  verified_le : verifiedAt ≤ updatedAt

/-! ## Queries -/

/-- `otp_get_client_name`; an empty name counts as none. -/
def clientName (clients : ClientTable) (call : OtpCall) : Option String :=
  (((clients.lookup call.aud).filter fun client =>
    client.tenantId = call.tenantId && client.isActive).map
      ClientRow.name).filter filled

/-- `WHERE user_email = .. AND issuer = ..`. -/
def OtpRow.isFor (row : OtpRow) (userEmail issuer : String) : Bool :=
  row.userEmail = userEmail && row.issuer = issuer

/-- The row of `otp_verify_get_secret`, one of those that match. -/
def getSecret (rows : List OtpRow) (call : OtpCall) (issuer : String) :
    Option OtpRow :=
  let found := rows.filter fun row =>
    row.isFor call.userEmail issuer && row.isActive
  found[call.place % found.length]?

/-- `is_replayed` of that query. -/
def OtpRow.isReplayed (row : OtpRow) (now : Int) : Bool :=
  row.updatedAt.isSome && row.lastUsedAt.any fun used => now - used < otpInterval

/-- `otp_update_last_used`. -/
def updateLastUsed (rows : List OtpRow) (userEmail issuer : String) (now : Int) :
    List OtpRow :=
  rows.map fun row =>
    if row.isFor userEmail issuer then { row with updatedAt := some now } else row

/-! ## `verify_otp` -/

/-- The outcome of a call, the table after it and the rows it read or updated. -/
structure Verification where
  result : Except Exn Bool
  otpSecrets : Option (List OtpRow)
  touched : List OtpRow

/-- `verify_otp`; `none` as table is one that does not exist, and the migrations
make `totp_secrets` only. -/
def verifyOtp (library : OtpLibrary) (clients : ClientTable)
    (otpSecrets : Option (List OtpRow)) (call : OtpCall) : Verification :=
  match clientName clients call with
  | none =>
      ⟨.error (.app .notFound "Client application not found"), otpSecrets, []⟩
  | some issuer =>
      match otpSecrets with
      | none =>
          ⟨.error (.database "relation \"otp_secrets\" does not exist"), none, []⟩
      | some rows =>
          match getSecret rows call issuer with
          | none => ⟨.error (.other "TypeError"), some rows, []⟩
          | some row =>
              if !filled row.otpSecret then
                ⟨.error (.app .notFound
                  "OTP secret not found for the given user and issuer"),
                  some rows, [row]⟩
              else if row.isReplayed call.queriedAt then
                ⟨.error (.app .authorization "OTP used"), some rows, [row]⟩
              else
                match library.decrypt row.otpSecret with
                | none => ⟨.error (.other "InvalidToken"), some rows, [row]⟩
                | some secret =>
                    if library.verify secret call.otpCode call.verifiedAt then
                      ⟨.ok true,
                        some (updateLastUsed rows call.userEmail issuer
                          call.updatedAt),
                        row :: rows.filter fun row =>
                          row.isFor call.userEmail issuer⟩
                    else ⟨.ok false, some rows, [row]⟩

/-! ## Runs -/

/-- A code that was accepted for a secret. -/
structure AcceptedCode where
  tenantId : String
  userEmail : String
  issuer : String
  otpCode : String
  deriving DecidableEq, Repr

/-- The tables and the clock, the codes that were accepted, and the rows that
calls have read or updated, each with the tenant of its call. -/
structure OtpState where
  clients : ClientTable
  otpSecrets : Option (List OtpRow)
  now : Int
  accepted : List AcceptedCode := []
  touched : List (String × OtpRow) := []

/-- The code of a call, for the secret it asks for. -/
def codeOf (clients : ClientTable) (call : OtpCall) : AcceptedCode where
  tenantId := call.tenantId
  userEmail := call.userEmail
  issuer := (clientName clients call).getD ""
  otpCode := call.otpCode

/-- The state after a call, which comes no earlier than the one before. -/
def step (library : OtpLibrary) (state : OtpState) (call : OtpCall) :
    Option OtpState :=
  if state.now ≤ call.queriedAt then
    let outcome := verifyOtp library state.clients state.otpSecrets call
    some { state with
      otpSecrets := outcome.otpSecrets
      now := call.updatedAt
      accepted :=
        match outcome.result with
        | .ok true => codeOf state.clients call :: state.accepted
        | _ => state.accepted
      touched := outcome.touched.map (fun row => (call.tenantId, row)) ++
        state.touched }
  else none

/-- No code was accepted twice, and calls touch only rows of their tenants. -/
structure Sound (state : OtpState) : Prop where
  once : state.accepted.Nodup
  isolated : ∀ touch ∈ state.touched, touch.2.tenantId = touch.1

/-! ## The condition -/

/-- The code of the call counts for the row: the row was not used in the last 45
seconds, and the code is one of its secret for now or for an adjacent interval. -/
def counts (library : OtpLibrary) (call : OtpCall) (row : OtpRow) : Bool :=
  filled row.otpSecret && !row.isReplayed call.queriedAt &&
    (library.decrypt row.otpSecret).any fun secret =>
      library.verify secret call.otpCode call.verifiedAt

/-- The row a call finds, with the rows and the name of its client. -/
def Finds (state : OtpState) (call : OtpCall) (issuer : String)
    (rows : List OtpRow) (row : OtpRow) : Prop :=
  clientName state.clients call = some issuer ∧ state.otpSecrets = some rows ∧
    getSecret rows call issuer = some row

/-- The row found is of the tenant; and if the code counts, then all rows for the
email and the client are. -/
def OwnRows (library : OtpLibrary) (state : OtpState) (call : OtpCall) : Prop :=
  ∀ issuer rows row, Finds state call issuer rows row →
    row.tenantId = call.tenantId ∧
      (counts library call row = true →
        ∀ other ∈ rows, other.isFor call.userEmail issuer = true →
          other.tenantId = call.tenantId)

/-- The call presents a code that counts for the row it finds. -/
def presents (library : OtpLibrary) (state : OtpState) (call : OtpCall) : Bool :=
  (clientName state.clients call).any fun issuer =>
    state.otpSecrets.any fun rows =>
      (getSecret rows call issuer).any fun row => counts library call row

/-- The codes that the calls of a run present while they count. -/
def presented (library : OtpLibrary) : OtpState → List OtpCall → List AcceptedCode
  | _, [] => []
  | state, call :: rest =>
      (if presents library state call then [codeOf state.clients call] else []) ++
        ((step library state call).map fun next =>
          presented library next rest).getD []

/-! ## What a call does -/

section Calls

variable {library : OtpLibrary} {clients : ClientTable} {rows : List OtpRow}
variable {otpSecrets : Option (List OtpRow)} {call : OtpCall} {issuer : String}
variable {row : OtpRow}

theorem verifyOtp_of_missing
    (missing : ∀ issuer rows row, clientName clients call = some issuer →
      otpSecrets = some rows → getSecret rows call issuer ≠ some row) :
    (verifyOtp library clients otpSecrets call).result ≠ .ok true ∧
      (verifyOtp library clients otpSecrets call).touched = [] := by
  unfold verifyOtp
  cases named : clientName clients call with
  | none => exact ⟨nofun, rfl⟩
  | some issuer =>
      cases otpSecrets with
      | none => exact ⟨nofun, rfl⟩
      | some rows =>
          cases found : getSecret rows call issuer with
          | none => simp [found]
          | some row => exact absurd found (missing issuer rows row named rfl)

theorem counts_iff : counts library call row = true ↔
    (filled row.otpSecret = true ∧ row.isReplayed call.queriedAt = false) ∧
      ∃ secret, library.decrypt row.otpSecret = some secret ∧
        library.verify secret call.otpCode call.verifiedAt = true := by
  simp [counts, Option.any_eq_true]

/-- A code that counts is accepted, and all rows for the email and the client are
updated. -/
theorem verifyOtp_of_counts (named : clientName clients call = some issuer)
    (found : getSecret rows call issuer = some row)
    (valid : counts library call row = true) :
    (verifyOtp library clients (some rows) call).result = .ok true ∧
      (verifyOtp library clients (some rows) call).touched =
        row :: rows.filter fun row => row.isFor call.userEmail issuer := by
  obtain ⟨⟨hasSecret, unused⟩, secret, decrypted, verified⟩ := counts_iff.mp valid
  simp [verifyOtp, named, found, hasSecret, unused, decrypted, verified]

theorem verifyOtp_of_not_counts (named : clientName clients call = some issuer)
    (found : getSecret rows call issuer = some row)
    (invalid : counts library call row = false) :
    (verifyOtp library clients (some rows) call).result ≠ .ok true ∧
      (verifyOtp library clients (some rows) call).touched = [row] := by
  unfold verifyOtp
  rw [named]
  dsimp only
  rw [found]
  dsimp only
  split
  case isTrue => exact ⟨nofun, rfl⟩
  case isFalse hasSecret =>
    split
    case isTrue => exact ⟨nofun, rfl⟩
    case isFalse unused =>
      split
      case h_1 => exact ⟨nofun, rfl⟩
      case h_2 secret decrypted =>
        split
        case isTrue verified =>
          refine absurd (counts_iff.mpr ⟨⟨?_, ?_⟩, secret, decrypted, verified⟩)
            (Bool.not_eq_true _ ▸ invalid)
          · simpa using hasSecret
          · simpa using unused
        case isFalse => exact ⟨nofun, rfl⟩

end Calls

/-! ## What a step does -/

section Steps

variable {library : OtpLibrary} {state next : OtpState} {call : OtpCall}

theorem step_eq_some (isStep : step library state call = some next) :
    next.accepted =
        (match (verifyOtp library state.clients state.otpSecrets call).result with
          | .ok true => codeOf state.clients call :: state.accepted
          | _ => state.accepted) ∧
      next.touched =
        (verifyOtp library state.clients state.otpSecrets call).touched.map
            (fun row => (call.tenantId, row)) ++ state.touched := by
  unfold step at isStep
  split at isStep
  · cases isStep
    exact ⟨rfl, rfl⟩
  · cases isStep

/-- Without an acceptance the codes stay. -/
theorem accepted_of_refused (isStep : step library state call = some next)
    (refused : (verifyOtp library state.clients state.otpSecrets call).result ≠
      .ok true) : next.accepted = state.accepted := by
  rw [(step_eq_some isStep).1]
  split
  case h_1 accepts => exact absurd accepts refused
  case h_2 => rfl

theorem isolated_step_iff (sound : Sound state)
    (isStep : step library state call = some next) :
    (∀ touch ∈ next.touched, touch.2.tenantId = touch.1) ↔
      ∀ row ∈ (verifyOtp library state.clients state.otpSecrets call).touched,
        row.tenantId = call.tenantId := by
  rw [(step_eq_some isStep).2, List.forall_mem_append, List.forall_mem_map]
  exact and_iff_left sound.isolated

theorem presents_of_finds {issuer : String} {rows : List OtpRow} {row : OtpRow}
    (finds : Finds state call issuer rows row) :
    presents library state call = counts library call row := by
  obtain ⟨named, hasTable, found⟩ := finds
  simp [presents, named, hasTable, found]

theorem accepted_step (isStep : step library state call = some next) :
    next.accepted =
      (if presents library state call then [codeOf state.clients call] else []) ++
        state.accepted := by
  by_cases anyRow : ∃ issuer rows row, Finds state call issuer rows row
  case neg =>
    have missing (issuer : String) (rows : List OtpRow) (row : OtpRow)
        (named : clientName state.clients call = some issuer)
        (hasTable : state.otpSecrets = some rows) :
        getSecret rows call issuer ≠ some row :=
      fun found => anyRow ⟨issuer, rows, row, named, hasTable, found⟩
    have absent : presents library state call = false := by
      rw [← Bool.not_eq_true]
      intro isPresented
      simp only [presents, Option.any_eq_true] at isPresented
      obtain ⟨issuer, named, rows, hasTable, row, found, -⟩ := isPresented
      exact missing issuer rows row named hasTable found
    rw [absent, accepted_of_refused isStep (verifyOtp_of_missing missing).1]
    rfl
  obtain ⟨issuer, rows, row, finds⟩ := anyRow
  rw [presents_of_finds finds]
  obtain ⟨named, hasTable, found⟩ := finds
  cases valid : counts library call row with
  | false =>
      have refused := (verifyOtp_of_not_counts named found valid).1
      rw [← hasTable] at refused
      exact accepted_of_refused isStep refused
  | true =>
      have accepts := (verifyOtp_of_counts named found valid).1
      rw [← hasTable] at accepts
      rw [(step_eq_some isStep).1, accepts]
      rfl

/-- A call keeps the tenants apart exactly if it finds rows of its own. -/
theorem isolated_iff_ownRows (sound : Sound state)
    (isStep : step library state call = some next) :
    (∀ touch ∈ next.touched, touch.2.tenantId = touch.1) ↔
      OwnRows library state call := by
  rw [isolated_step_iff sound isStep]
  by_cases anyRow : ∃ issuer rows row, Finds state call issuer rows row
  case neg =>
    have missing (issuer : String) (rows : List OtpRow) (row : OtpRow)
        (named : clientName state.clients call = some issuer)
        (hasTable : state.otpSecrets = some rows) :
        getSecret rows call issuer ≠ some row :=
      fun found => anyRow ⟨issuer, rows, row, named, hasTable, found⟩
    rw [(verifyOtp_of_missing missing).2]
    exact iff_of_true nofun fun issuer rows row finds =>
      absurd ⟨issuer, rows, row, finds⟩ anyRow
  obtain ⟨issuer, rows, row, finds⟩ := anyRow
  have own_iff : OwnRows library state call ↔ row.tenantId = call.tenantId ∧
      (counts library call row = true →
        ∀ other ∈ rows, other.isFor call.userEmail issuer = true →
          other.tenantId = call.tenantId) := by
    refine ⟨fun own => own issuer rows row finds, ?_⟩
    rintro holds otherIssuer otherRows otherRow ⟨otherNamed, otherTable, otherFound⟩
    cases finds.1.symm.trans otherNamed
    cases finds.2.1.symm.trans otherTable
    cases finds.2.2.symm.trans otherFound
    exact holds
  rw [own_iff]
  obtain ⟨named, hasTable, found⟩ := finds
  cases valid : counts library call row with
  | false =>
      have touched := (verifyOtp_of_not_counts named found valid).2
      rw [← hasTable] at touched
      rw [touched, List.forall_mem_singleton]
      exact (and_iff_left nofun).symm
  | true =>
      have touched := (verifyOtp_of_counts named found valid).2
      rw [← hasTable] at touched
      rw [touched, List.forall_mem_cons]
      simp [List.mem_filter]

end Steps

/-! ## The column that nothing writes -/

section Columns

variable {library : OtpLibrary} {state next final : OtpState} {call : OtpCall}
variable {calls : List OtpCall} {rows : List OtpRow} {row : OtpRow}
variable {issuer secret : String}

/-- The values of `last_used_at` in the table, if it exists. -/
def lastUsed (otpSecrets : Option (List OtpRow)) : Option (List (Option Int)) :=
  otpSecrets.map fun rows => rows.map OtpRow.lastUsedAt

theorem lastUsed_updateLastUsed (rows : List OtpRow) (userEmail issuer : String)
    (now : Int) :
    (updateLastUsed rows userEmail issuer now).map OtpRow.lastUsedAt =
      rows.map OtpRow.lastUsedAt := by
  induction rows with
  | nil => rfl
  | cons row rest ih =>
      have here : (if row.isFor userEmail issuer then
          { row with updatedAt := some now } else row).lastUsedAt =
            row.lastUsedAt := by
        split <;> rfl
      simp only [updateLastUsed, List.map_cons, List.cons.injEq] at ih ⊢
      exact ⟨here, ih⟩

theorem lastUsed_verifyOtp (library : OtpLibrary) (clients : ClientTable)
    (otpSecrets : Option (List OtpRow)) (call : OtpCall) :
    lastUsed (verifyOtp library clients otpSecrets call).otpSecrets =
      lastUsed otpSecrets := by
  unfold verifyOtp
  split
  · rfl
  split
  · rfl
  split
  · rfl
  split
  · rfl
  split
  · rfl
  split
  · rfl
  split
  · simp only [lastUsed, Option.map_some, lastUsed_updateLastUsed]
  · rfl

theorem lastUsed_step (isStep : step library state call = some next) :
    lastUsed next.otpSecrets = lastUsed state.otpSecrets := by
  unfold step at isStep
  split at isStep
  · cases isStep
    exact lastUsed_verifyOtp library state.clients state.otpSecrets call
  · cases isStep

theorem lastUsed_run (runs : exec (step library) state calls = some final) :
    lastUsed final.otpSecrets = lastUsed state.otpSecrets := by
  have keeps (reached : OtpState) (call : OtpCall) (next : OtpState)
      (holds : lastUsed reached.otpSecrets = lastUsed state.otpSecrets)
      (isStep : step library reached call = some next) :
      lastUsed next.otpSecrets = lastUsed state.otpSecrets :=
    (lastUsed_step isStep).trans holds
  exact invariant keeps rfl runs

/-- If no row was used at first, then after any run a code that verifies is
accepted, whatever was accepted before. -/
theorem accepts_of_neverUsed
    (never : ∀ rows, state.otpSecrets = some rows → ∀ row ∈ rows,
      row.lastUsedAt = none)
    (runs : exec (step library) state calls = some final)
    (named : clientName final.clients call = some issuer)
    (hasTable : final.otpSecrets = some rows)
    (found : getSecret rows call issuer = some row)
    (hasSecret : filled row.otpSecret = true)
    (decrypted : library.decrypt row.otpSecret = some secret)
    (verified : library.verify secret call.otpCode call.verifiedAt = true) :
    (verifyOtp library final.clients final.otpSecrets call).result = .ok true := by
  have rowMem : row ∈ rows :=
    (List.mem_filter.mp (List.mem_of_getElem? found)).1
  have columns := lastUsed_run runs
  rw [hasTable] at columns
  obtain ⟨firstRows, firstTable, columnsEq⟩ :=
    Option.map_eq_some_iff.mp columns.symm
  have unused : row.lastUsedAt = none := by
    have inColumn : row.lastUsedAt ∈ firstRows.map OtpRow.lastUsedAt := by
      rw [columnsEq]
      exact List.mem_map_of_mem rowMem
    obtain ⟨firstRow, firstMem, valueEq⟩ := List.mem_map.mp inColumn
    rw [← valueEq]
    exact never firstRows firstTable firstRow firstMem
  have valid : counts library call row = true :=
    counts_iff.mpr ⟨⟨hasSecret, by simp [OtpRow.isReplayed, unused]⟩, secret,
      decrypted, verified⟩
  rw [hasTable]
  exact (verifyOtp_of_counts named found valid).1

end Columns

/-! ## The result -/

/-- What stays sound along a run: its calls find rows of their own, and the codes
they present while they count are new and distinct. -/
theorem sound_along_iff (library : OtpLibrary) {state final : OtpState}
    {calls : List OtpCall} (sound : Sound state)
    (runs : exec (step library) state calls = some final) :
    Always (step library) Sound state calls ↔
      Along (step library) (OwnRows library) state calls ∧
        (presented library state calls ++ state.accepted).Nodup := by
  induction calls generalizing state with
  | nil => exact iff_of_true sound ⟨trivial, sound.once⟩
  | cons call rest ih =>
      obtain ⟨next, isStep, restRuns⟩ := exec_cons_eq_some.mp runs
      have sound_iff : Sound next ↔
          next.accepted.Nodup ∧ OwnRows library state call := by
        rw [← isolated_iff_ownRows sound isStep]
        exact ⟨fun soundNext => ⟨soundNext.once, soundNext.isolated⟩,
          fun holds => ⟨holds.1, holds.2⟩⟩
      have codes : (presented library state (call :: rest) ++
          state.accepted).Perm (presented library next rest ++ next.accepted) := by
        rw [presented, isStep, accepted_step isStep, Option.map_some,
          Option.getD_some, List.append_assoc]
        exact List.perm_append_comm_assoc ..
      rw [always_cons, along_cons, codes.nodup_iff]
      constructor
      · rintro ⟨-, later⟩
        have always := later next isStep
        have soundNext := always_here always
        obtain ⟨along, nodup⟩ := (ih soundNext restRuns).mp always
        refine ⟨⟨(sound_iff.mp soundNext).2, fun other otherStep => ?_⟩, nodup⟩
        rwa [Option.some.inj (otherStep.symm.trans isStep)]
      · rintro ⟨⟨own, along⟩, nodup⟩
        have soundNext := sound_iff.mpr ⟨(List.nodup_append.mp nodup).2.1, own⟩
        refine ⟨sound, fun other otherStep => ?_⟩
        rw [Option.some.inj (otherStep.symm.trans isStep)]
        exact (ih soundNext restRuns).mpr ⟨along next isStep, nodup⟩

/-- In a run of calls each code is accepted once and the tenants are apart exactly
if every call finds rows of its own tenant and no two calls present one code
while it counts. -/
theorem sound_iff_presentedOnce (library : OtpLibrary) (clients : ClientTable)
    (otpSecrets : Option (List OtpRow)) (now : Int) (calls : List OtpCall)
    (final : OtpState)
    (runs : exec (step library) ⟨clients, otpSecrets, now, [], []⟩ calls =
      some final) :
    Always (step library) Sound ⟨clients, otpSecrets, now, [], []⟩ calls ↔
      Along (step library) (OwnRows library) ⟨clients, otpSecrets, now, [], []⟩
          calls ∧
        (presented library ⟨clients, otpSecrets, now, [], []⟩ calls).Nodup := by
  have start : Sound ⟨clients, otpSecrets, now, [], []⟩ :=
    ⟨List.nodup_nil, fun _ touched => by cases touched⟩
  have sound_iff := sound_along_iff library start runs
  rwa [List.append_nil] at sound_iff

/-! ## Runs on fixed tables -/

/-- One encrypted secret, and its code of interval 2. -/
def oneCode : OtpLibrary where
  decrypt := fun text => if text = "encrypted" then some "JBSWY3DP" else none
  ownInterval := fun secret code =>
    if secret = "JBSWY3DP" && code = "69268349" then some 2 else none

/-- A secret of the user `u@x` for the client `Portal`, never used. -/
def secretOf (tenantId : String) : OtpRow where
  tenantId := tenantId
  userEmail := "u@x"
  issuer := "Portal"
  otpSecret := "encrypted"
  isActive := true
  updatedAt := none
  lastUsedAt := none

/-- The tenant `t` has a client of that name. -/
def oneClient : ClientTable :=
  .single ⟨"c", "t", "", "Portal", [], [], true⟩

/-- The call of the user `u@x` of the tenant `t`, `seconds` after the epoch. -/
def callAt (seconds : Int) : OtpCall where
  aud := "c"
  userEmail := "u@x"
  otpCode := "69268349"
  tenantId := "t"
  queriedAt := seconds * 1000000
  verifiedAt := seconds * 1000000
  updatedAt := seconds * 1000000
  place := 0
  queried_le := Int.le_refl _
  verified_le := Int.le_refl _

/-- A code is presented once, and again when it counts no more. -/
theorem presented_once_sound :
    Always (step oneCode) Sound ⟨oneClient, some [secretOf "t"], 0, [], []⟩
      [callAt 90, callAt 600] := by
  refine (sound_iff_presentedOnce oneCode oneClient (some [secretOf "t"]) 0
    [callAt 90, callAt 600] _ rfl).mpr ⟨?_, by decide⟩
  have ownRows (updatedAt : Option Int) (seconds now : Int)
      (accepted : List AcceptedCode) (touched : List (String × OtpRow)) :
      OwnRows oneCode ⟨oneClient, some [{ secretOf "t" with
        updatedAt := updatedAt }], now, accepted, touched⟩ (callAt seconds) := by
    rintro issuer rows row ⟨named, hasTable, found⟩
    cases named
    cases hasTable
    cases found
    refine ⟨rfl, fun _ other otherMem _ => ?_⟩
    rw [List.mem_singleton.mp otherMem]
    rfl
  refine ⟨ownRows none 90 0 [] [], ?_⟩
  rintro next ⟨⟩
  exact ⟨ownRows _ 600 _ _ _, fun _ _ => trivial⟩

/-- The same code is accepted again after ten seconds; and a call of the tenant
`t` is answered with the secret of the tenant `s`. -/
theorem code_accepted_twice :
    ¬ Always (step oneCode) Sound ⟨oneClient, some [secretOf "t"], 0, [], []⟩
        [callAt 90, callAt 100] ∧
      ¬ Always (step oneCode) Sound ⟨oneClient, some [secretOf "s"], 0, [], []⟩
        [callAt 90] := by
  constructor
  · intro always
    have sound : Sound _ := (always.2 _ rfl).2 _ rfl
    exact absurd sound.once (by decide)
  · intro always
    have sound : Sound _ := always.2 _ rfl
    exact absurd sound.isolated (by decide)

end OtpVerification

end HexIam
