import HexIam.AuditLog

/-!
# Audit entries read back

What `_flush` and `publish_immediate` write for an entry, `process_batch` reads
as one record with the same values.  Of the keyword arguments only those other
than `module`, `function` and `line` reach `extra`.
-/

namespace HexIam

open UtcTimestamp (Moment)

namespace AuditRoundTrip

open AuditLog

/-! ## Single values -/

theorem strOfInt_of_small {number : Int} (small : number.natAbs < 2 ^ 64) :
    strOfInt number = some number.repr := by
  unfold strOfInt
  refine if_pos (small.trans_le ?_)
  calc 2 ^ 64 ≤ 10 ^ 64 := Nat.pow_le_pow_left (by decide) 64
    _ ≤ 10 ^ maxStrDigits := Nat.pow_le_pow_right (by decide) (by decide)

theorem digits_repr (number : Int) :
    (number.repr.toList.filter Char.isDigit).length ≤
      (Nat.toDigits 10 number.natAbs).length := by
  cases number with
  | ofNat value =>
      have printed : (Int.repr (.ofNat value)).toList = Nat.toDigits 10 value :=
        Nat.toList_repr
      rw [printed]
      exact List.length_filter_le _ _
  | negSucc value =>
      have printed : (Int.repr (.negSucc value)).toList =
          '-' :: Nat.toDigits 10 (value + 1) := by
        rw [Int.repr, String.toList_append, Nat.toList_repr]
        rfl
      rw [printed, List.filter_cons_of_neg (by decide)]
      exact List.length_filter_le _ _

theorem int_strOfInt (python : Python) {number : Int} {text : String}
    (printed : strOfInt number = some text) : python.int text = some number := by
  unfold strOfInt at printed
  split at printed
  case isFalse => cases printed
  case isTrue fits =>
    cases printed
    have short : (number.repr.toList.filter Char.isDigit).length ≤
        maxStrDigits :=
      (digits_repr number).trans
        ((Nat.length_toDigits_le_iff (by decide) (by decide)).mpr fits)
    rw [Python.int, UtcTimestamp.intOf?_repr]
    exact if_pos short

/-! ## Dictionaries -/

/-- The field of a value that is written as text. -/
def writtenField : EntryValue → Option String
  | .none => none
  | value => value.str

theorem serialized_cons_none (name : String)
    (items : List (String × EntryValue)) :
    serialized ((name, .none) :: items) = serialized items :=
  rfl

theorem serialized_cons {name : String} {value : EntryValue}
    {items : List (String × EntryValue)} (isValue : value ≠ .none) :
    serialized ((name, value) :: items) =
      value.str.bind fun text =>
        (serialized items).map fun fields => (name, text) :: fields := by
  rw [serialized, List.filter_cons, if_pos (decide_eq_true isValue),
    List.mapM_cons]
  cases value.str with
  | none => rfl
  | some text =>
      change (serialized items).bind _ = _
      cases serialized items <;> rfl

/-- A dictionary of distinct names is written when each of its values is. -/
theorem serialized_of_all {items : List (String × EntryValue)}
    (all : ∀ item ∈ items, item.2.str.isSome) :
    ∃ fields, serialized items = some fields := by
  induction items with
  | nil => exact ⟨[], rfl⟩
  | cons item items ih =>
      obtain ⟨name, value⟩ := item
      obtain ⟨fields, written⟩ := ih fun item mem => all item (.tail _ mem)
      by_cases isValue : value = .none
      · rw [isValue]
        exact ⟨fields, written⟩
      · obtain ⟨text, isText⟩ := Option.isSome_iff_exists.mp
          (all (name, value) (.head _))
        exact ⟨(name, text) :: fields, by
          rw [serialized_cons isValue, isText, written]
          rfl⟩

/-- One value that is not written prevents all. -/
theorem serialized_eq_none {items : List (String × EntryValue)}
    {item : String × EntryValue} (mem : item ∈ items)
    (refused : item.2.str = none) : serialized items = none := by
  induction items with
  | nil => cases mem
  | cons head items ih =>
      obtain ⟨name, value⟩ := head
      by_cases isValue : value = .none
      · rw [isValue] at mem ⊢
        rcases List.mem_cons.mp mem with rfl | mem
        · cases refused
        · exact ih mem
      · rw [serialized_cons isValue]
        rcases List.mem_cons.mp mem with rfl | mem
        · rw [refused]
          rfl
        · rw [ih mem]
          cases value.str <;> rfl

theorem lookup_serialized {items : List (String × EntryValue)} {fields : Fields}
    (distinct : (items.map Prod.fst).Nodup)
    (written : serialized items = some fields) (name : String) :
    fields.lookup name = (items.lookup name).bind writtenField := by
  induction items generalizing fields with
  | nil =>
      cases written
      rfl
  | cons item items ih =>
      obtain ⟨key, value⟩ := item
      obtain ⟨fresh, distinct⟩ := List.nodup_cons.mp distinct
      by_cases isValue : value = .none
      · rw [isValue, serialized_cons_none] at written
        rw [ih distinct written, isValue, List.lookup_cons]
        cases sameKey : name == key with
        | false => rfl
        | true =>
            have absent : items.lookup name = none := by
              rw [eq_of_beq sameKey, List.lookup_eq_none_iff]
              rintro ⟨other, _⟩ mem
              have differs : key ≠ other := fun same =>
                fresh (List.mem_map.mpr ⟨_, mem, same.symm⟩)
              simpa using differs
            rw [absent]
            rfl
      · rw [serialized_cons isValue] at written
        obtain ⟨text, isText, rest⟩ := Option.bind_eq_some_iff.mp written
        obtain ⟨restFields, restWritten, rfl⟩ := Option.map_eq_some_iff.mp rest
        rw [List.lookup_cons, List.lookup_cons]
        cases sameKey : name == key with
        | false => exact ih distinct restWritten
        | true =>
            rw [Option.bind_some, writtenField.eq_2 _ isValue, isText]

/-! ## Entries -/

/-- The values that the reader does not take for something else. -/
structure Readable (entry : LogEntry) : Prop where
  moduleName : entry.moduleName ≠ "None"
  function : entry.function ≠ "None"
  line : ∀ number ∈ entry.line, (strOfInt number).isSome
  threadId : (strOfInt entry.threadId).isSome
  processId : (strOfInt entry.processId).isSome
  extra : ∀ text ∈ entry.extra, text ≠ "None" ∧ text ≠ "null"

/-- The record of an entry. -/
def recordFor (entry : LogEntry) : AuditRecord where
  timestamp := entry.timestamp
  level := entry.level
  logger := entry.logger
  message := entry.message
  moduleName := some entry.moduleName
  function := some entry.function
  line := entry.line
  threadId := some entry.threadId
  processId := some entry.processId
  extra := entry.extra

section Columns

variable {python : Python} {entry : LogEntry} {fields : Fields}

theorem distinct_items : (entry.items.map Prod.fst).Nodup := by
  have names : entry.items.map Prod.fst = ["timestamp", "level", "logger",
    "message", "module", "function", "line", "thread_id", "process_id",
    "extra"] := rfl
  rw [names]
  decide

theorem replaceZulu_eq {text : String} (noZulu : 'Z' ∉ text.toList) :
    replaceZulu text = text := by
  have same : (text.toList.flatMap fun char =>
      if char = 'Z' then ['+', '0', '0', ':', '0', '0'] else [char]) =
        text.toList.flatMap fun char => [char] := by
    refine List.flatMap_congr fun char mem => if_neg ?_
    rintro rfl
    exact noZulu mem
  rw [replaceZulu, same, List.flatMap_singleton', String.ofList_toList]

theorem timestampColumn_eq {utcNow : Moment}
    (found : fields.lookup "timestamp" =
      some (String.ofList (UtcTimestamp.isoformat entry.timestamp))) :
    timestampColumn python utcNow fields = entry.timestamp := by
  have noZulu : 'Z' ∉
      (String.ofList (UtcTimestamp.isoformat entry.timestamp)).toList := by
    rw [String.toList_ofList]
    exact UtcTimestamp.not_mem_isoformat entry.timestamp
  rw [timestampColumn, found, Option.getD_some, replaceZulu_eq noZulu,
    Python.fromisoformat, String.toList_ofList,
    UtcTimestamp.fromisoformat_isoformat]
  rfl

theorem repr_ne {number : Int} {text : String}
    (noNumber : UtcTimestamp.intOf? text.toList = none) :
    number.repr ≠ text := by
  rintro rfl
  rw [UtcTimestamp.intOf?_repr] at noNumber
  cases noNumber

theorem intColumn_eq {name : String} {value : Option Int}
    (printed : ∀ number ∈ value, (strOfInt number).isSome)
    (found : fields.lookup name = writtenField (.ofInt value)) :
    intColumn python fields name = .ok value := by
  unfold intColumn
  rw [found]
  cases value with
  | none => rfl
  | some number =>
      obtain ⟨text, isText⟩ := Option.isSome_iff_exists.mp (printed number rfl)
      have written : writtenField (.ofInt (some number)) = some text := isText
      have isRepr : number.repr = text := by
        unfold strOfInt at isText
        split at isText
        case isTrue => exact Option.some.inj isText
        case isFalse => cases isText
      have notEmpty : text ≠ "" := isRepr ▸ repr_ne rfl
      have notNone : text ≠ "None" := isRepr ▸ repr_ne rfl
      have kept : (filled text && text ≠ "None") = true := by
        simp [filled, notEmpty, notNone]
      rw [written, Option.filter_some, if_pos kept]
      simp only [int_strOfInt python isText]

theorem textColumn_eq {name text : String} (named : text ≠ "None")
    (found : fields.lookup name = some text) :
    textColumn fields name = some text := by
  rw [textColumn, found, Option.filter_some, if_pos (decide_eq_true named)]

end Columns

theorem recordOf_written (python : Python) (utcNow : Moment) {entry : LogEntry}
    (readable : Readable entry) :
    ∃ fields, serialized entry.items = some fields ∧
      recordOf python utcNow fields = .ok (recordFor entry) := by
  have all : ∀ item ∈ entry.items, item.2.str.isSome := by
    have line : (EntryValue.ofInt entry.line).str.isSome := by
      cases isLine : entry.line with
      | none => rfl
      | some number => exact readable.line number isLine
    have extra : (EntryValue.ofText entry.extra).str.isSome := by
      cases entry.extra <;> rfl
    simp [LogEntry.items, line, extra, readable.threadId, readable.processId]
  obtain ⟨fields, written⟩ := serialized_of_all all
  refine ⟨fields, written, ?_⟩
  have found := lookup_serialized distinct_items written
  have extra : (fields.lookup "extra").filter
      (fun text => text ≠ "None" && text ≠ "null") = entry.extra := by
    have foundExtra : fields.lookup "extra" =
        writtenField (.ofText entry.extra) := found "extra"
    have isExtra : writtenField (.ofText entry.extra) = entry.extra := by
      cases entry.extra <;> rfl
    rw [foundExtra, isExtra]
    cases isExtra : entry.extra with
    | none => rfl
    | some text =>
        obtain ⟨notNone, notNull⟩ := readable.extra text isExtra
        simp [notNone, notNull]
  have line := @intColumn_eq python fields "line" entry.line readable.line
    (found "line")
  have threadId := @intColumn_eq python fields "thread_id" (some entry.threadId)
    (by
      rintro _ ⟨⟩
      exact readable.threadId) (found "thread_id")
  have processId := @intColumn_eq python fields "process_id"
    (some entry.processId) (by
      rintro _ ⟨⟩
      exact readable.processId)
    (found "process_id")
  have timestamp := @timestampColumn_eq python entry fields utcNow
    (found "timestamp")
  have moduleName := textColumn_eq readable.moduleName (found "module")
  have function := textColumn_eq readable.function (found "function")
  have level : fields.lookup "level" = some entry.level := found "level"
  have logger : fields.lookup "logger" = some entry.logger := found "logger"
  have message : fields.lookup "message" = some entry.message := found "message"
  unfold recordOf
  rw [line, threadId, processId, timestamp, moduleName, function, level, logger,
    message, extra]
  rfl

/-! ## The result -/

section Built

variable {python : Python} {dumps : List (String × PyValue) → Option String}
variable {frame : Frame} {worker : AuditLog.Worker} {now : Moment}
variable {name level message : String} {kwargs : Kwargs} {entry : LogEntry}

theorem getD_filled_ne {value : Option String} {default : String}
    (named : value ≠ some "None") (defaultNamed : default ≠ "None") :
    (value.filter filled).getD default ≠ "None" := by
  cases value with
  | none => exact defaultNamed
  | some text =>
      rw [Option.filter_some]
      split
      · exact fun same => named (congrArg some same)
      · exact defaultNamed

theorem readable_of_built
    (isObject : ∀ fields text, dumps fields = some text →
      startsWith text "\x7b" = true)
    (moduleNamed : kwargs.moduleName ≠ some "None")
    (functionNamed : kwargs.function ≠ some "None")
    (linePrinted : ∀ number ∈ kwargs.line, (strOfInt number).isSome)
    (built : buildLogEntry python dumps frame worker now name level message
      kwargs = some entry) : Readable entry := by
  obtain ⟨extra, dumped, rfl⟩ := Option.map_eq_some_iff.mp built
  unfold extraOf at dumped
  constructor
  · exact getD_filled_ne moduleNamed (by decide)
  · exact getD_filled_ne functionNamed frame.function_ne
  · intro number isLine
    have small {number : Int} (isLine : number ∈ frame.line) :
        (strOfInt number).isSome := by
      rw [strOfInt_of_small ((frame.line_lt number isLine).trans (by decide))]
      rfl
    cases given : kwargs.line with
    | none =>
        rw [given] at isLine
        exact small isLine
    | some line =>
        rw [given, Option.filter_some] at isLine
        split at isLine
        · cases isLine
          exact linePrinted _ given
        · exact small isLine
  · rw [strOfInt_of_small worker.threadId_lt]
    rfl
  · rw [strOfInt_of_small worker.processId_lt]
    rfl
  · intro text isText
    split at dumped
    · cases dumped
      cases isText
    · obtain ⟨json, isJson, isExtra⟩ := Option.map_eq_some_iff.mp dumped
      have starts : startsWith text "\x7b" = true := by
        rw [← Option.some.inj (isExtra.trans isText)]
        exact isObject _ json isJson
      constructor <;> (rintro rfl; exact absurd starts (by decide))

theorem extra_of_built
    (built : buildLogEntry python dumps frame worker now name level message
      kwargs = some entry) : entry.extra = none ↔ kwargs.others = [] := by
  obtain ⟨extra, dumped, rfl⟩ := Option.map_eq_some_iff.mp built
  unfold extraOf at dumped
  split at dumped
  case isTrue noOthers =>
    cases dumped
    exact iff_of_true rfl noOthers
  case isFalse others =>
    obtain ⟨json, -, rfl⟩ := Option.map_eq_some_iff.mp dumped
    exact iff_of_false (Option.some_ne_none json) others

/-- Written by either function and read by the consumer, an entry becomes one
record with its values, where `extra` is null exactly when no keyword argument
other than `module`, `function` and `line` was given. -/
theorem decoded_of_built (utcNow : Moment)
    (isObject : ∀ fields text, dumps fields = some text →
      startsWith text "\x7b" = true)
    (moduleNamed : kwargs.moduleName ≠ some "None")
    (functionNamed : kwargs.function ≠ some "None")
    (linePrinted : ∀ number ∈ kwargs.line, (strOfInt number).isSome)
    (built : buildLogEntry python dumps frame worker now name level message
      kwargs = some entry) :
    ∃ fields record, flushFields entry = some fields ∧
      publishImmediateFields entry = some fields ∧
      recordsOf python utcNow [fields] = .ok [record] ∧
      record = recordFor entry ∧
      (record.extra = none ↔ kwargs.others = []) := by
  have readable := readable_of_built isObject moduleNamed functionNamed
    linePrinted built
  obtain ⟨fields, written, read⟩ := recordOf_written python utcNow readable
  refine ⟨fields, recordFor entry, written, written, ?_, rfl,
    extra_of_built built⟩
  rw [recordsOf, List.mapM_cons, read]
  rfl

end Built

/-! ## Calls of the logger -/

/-- No text but the usual ones is a number or a timestamp. -/
def plainPython : Python where
  upper := upper
  otherInts _ := none
  otherTimestamps _ := none

/-- The caller of the logger. -/
def caller : Frame where
  function := "login_submit"
  line := some 412
  function_ne := by decide
  line_lt := by
    rintro _ ⟨⟩
    decide

def serverWorker : AuditLog.Worker where
  threadId := 140245
  processId := 17
  threadId_lt := by decide
  processId_lt := by decide

def someMoment : Moment :=
  ⟨⟨2026, 1, 2, 3, 4, 5, 678⟩, by decide⟩

/-- `orjson.dumps` for `ip="10.0.0.1"`. -/
def dumpsIp (_ : List (String × PyValue)) : Option String :=
  some "\x7b\"ip\":\"10.0.0.1\"\x7d"

/-- An entry for a call with the keyword arguments. -/
def entryFor (extra : Option String) (moduleName : String) (line : Int) :
    LogEntry where
  timestamp := someMoment
  level := "INFO"
  logger := "audit"
  message := "signed in"
  moduleName := moduleName
  function := "login_submit"
  line := some line
  threadId := 140245
  processId := 17
  extra := extra

/-- `logger.info("signed in", ip="10.0.0.1")`. -/
theorem decoded_ip :
    ∃ fields record,
      flushFields (entryFor (dumpsIp []) "app.audit_logs.redis_logger" 412) =
        some fields ∧
      publishImmediateFields
        (entryFor (dumpsIp []) "app.audit_logs.redis_logger" 412) = some fields ∧
      recordsOf plainPython someMoment [fields] = .ok [record] ∧
      record =
        recordFor (entryFor (dumpsIp []) "app.audit_logs.redis_logger" 412) ∧
      (record.extra = none ↔ [("ip", PyValue.text "10.0.0.1")] = []) :=
  @decoded_of_built plainPython dumpsIp caller serverWorker someMoment "audit"
    "INFO" "signed in" { others := [("ip", .text "10.0.0.1")] } _ someMoment
    (by
      rintro _ _ ⟨⟩
      decide)
    (by decide) (by decide) (by simp) rfl

/-- With `module` as the only keyword argument `extra` is null, and a line
number of 4301 digits is not written at all. -/
theorem module_alone_leaves_extra_null :
    (∃ entry fields record,
      buildLogEntry plainPython dumpsIp caller serverWorker someMoment "audit"
        "INFO" "signed in" { moduleName := some "app.sso" } = some entry ∧
      flushFields entry = some fields ∧
      recordsOf plainPython someMoment [fields] = .ok [record] ∧
      record.extra = none) ∧
    ∃ entry,
      buildLogEntry plainPython dumpsIp caller serverWorker someMoment "audit"
        "INFO" "signed in" { line := some (10 ^ maxStrDigits) } = some entry ∧
      flushFields entry = none := by
  constructor
  · have built : buildLogEntry plainPython dumpsIp caller serverWorker someMoment
        "audit" "INFO" "signed in" { moduleName := some "app.sso" } =
        some (entryFor none "app.sso" 412) := rfl
    have readable : Readable (entryFor none "app.sso" 412) :=
      readable_of_built (by rintro _ _ ⟨⟩; decide) (by decide) (by decide)
        (by simp) built
    obtain ⟨fields, written, read⟩ :=
      recordOf_written plainPython someMoment readable
    refine ⟨_, fields, recordFor (entryFor none "app.sso" 412), built, written,
      ?_, rfl⟩
    rw [recordsOf, List.mapM_cons, read]
    rfl
  · have notZero : (10 : Int) ^ maxStrDigits ≠ 0 := pow_ne_zero _ (by decide)
    have kept : (some ((10 : Int) ^ maxStrDigits)).filter (· ≠ 0) =
        some (10 ^ maxStrDigits) := by
      rw [Option.filter_some, if_pos (decide_eq_true notZero)]
    have refused : strOfInt (10 ^ maxStrDigits) = none := by
      unfold strOfInt
      exact if_neg (by simp [Int.natAbs_pow])
    have item : ("line", EntryValue.int (10 ^ maxStrDigits)) ∈
        (entryFor none "app.audit_logs.redis_logger" (10 ^ maxStrDigits)).items := by
      simp [LogEntry.items, entryFor, EntryValue.ofInt]
    refine ⟨_, ?_, serialized_eq_none item refused⟩
    rw [buildLogEntry, kept]
    rfl

end AuditRoundTrip

end HexIam
