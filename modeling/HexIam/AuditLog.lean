import HexIam.PythonText
import HexIam.Tokens
import HexIam.UtcTimestamp

/-!
# Audit log entries

`_build_log_entry` makes an entry, `RedisLogBuffer` writes it to the Redis
stream as text fields, and `process_batch` of the consumer makes a record of
`audit_logs` of the fields.
-/

namespace HexIam

open UtcTimestamp (Moment)

namespace AuditLog

/-! ## Python -/

/-- The digits that `str` and `int` convert at most. -/
def maxStrDigits : Nat :=
  4300

/-- What the standard library does besides: `str.upper`, and the other texts
that `int` and `datetime.fromisoformat` accept. -/
structure Python where
  upper : String → String
  otherInts : String → Option Int
  otherTimestamps : String → Option Moment

/-- `str(number)`; `none` is its `ValueError`. -/
@[irreducible]
def strOfInt (number : Int) : Option String :=
  if number.natAbs < 10 ^ maxStrDigits then some number.repr else none

/-- `int(text)`; `none` is its `ValueError`. -/
def Python.int (python : Python) (text : String) : Option Int :=
  match UtcTimestamp.intOf? text.toList with
  | some number =>
      if (text.toList.filter Char.isDigit).length ≤ maxStrDigits then some number
      else none
  | none => python.otherInts text

/-- `datetime.fromisoformat(text)`; `none` is its `ValueError`. -/
def Python.fromisoformat (python : Python) (text : String) : Option Moment :=
  (UtcTimestamp.fromisoformat text.toList).orElse fun _ =>
    python.otherTimestamps text

/-- `text.replace("Z", "+00:00")`. -/
def replaceZulu (text : String) : String :=
  String.ofList (text.toList.flatMap fun char =>
    if char = 'Z' then ['+', '0', '0', ':', '0', '0'] else [char])

/-! ## Entries -/

/-- A value of an entry. -/
inductive EntryValue : Type
  | none
  | text (text : String)
  | int (number : Int)
  deriving DecidableEq

/-- An optional text or number. -/
def EntryValue.ofText (value : Option String) : EntryValue :=
  (value.map .text).getD .none

def EntryValue.ofInt (value : Option Int) : EntryValue :=
  (value.map .int).getD .none

/-- `v if isinstance(v, str) else str(v)`. -/
def EntryValue.str : EntryValue → Option String
  | .none => some "None"
  | .text value => some value
  | .int number => strOfInt number

@[simp]
theorem EntryValue.str_text (value : String) :
    (EntryValue.text value).str = some value :=
  rfl

@[simp]
theorem EntryValue.str_int (number : Int) :
    (EntryValue.int number).str = strOfInt number :=
  rfl

/-- What `_build_log_entry` returns. -/
structure LogEntry where
  timestamp : Moment
  level : String
  logger : String
  message : String
  moduleName : String
  function : String
  line : Option Int
  threadId : Int
  processId : Int
  extra : Option String
  deriving DecidableEq

/-- The entry as a dictionary. -/
def LogEntry.items (entry : LogEntry) : List (String × EntryValue) :=
  [("timestamp", .text (String.ofList (UtcTimestamp.isoformat entry.timestamp))),
    ("level", .text entry.level),
    ("logger", .text entry.logger),
    ("message", .text entry.message),
    ("module", .text entry.moduleName),
    ("function", .text entry.function),
    ("line", .ofInt entry.line),
    ("thread_id", .int entry.threadId),
    ("process_id", .int entry.processId),
    ("extra", .ofText entry.extra)]

/-- The keyword arguments of a call: `module`, `function` and `line` if they are
given, and the others. -/
structure Kwargs where
  moduleName : Option String := none
  function : Option String := none
  line : Option Int := none
  others : List (String × PyValue) := []

/-- The frame of the caller.  No function has a keyword for a name, and a line
number is a C integer. -/
structure Frame where
  function : String
  line : Option Int
  function_ne : function ≠ "None"
  line_lt : ∀ number ∈ line, number.natAbs < 2 ^ 31

/-- `threading.get_ident()` and `os.getpid()`, which are machine words. -/
structure Worker where
  threadId : Int
  processId : Int
  threadId_lt : threadId.natAbs < 2 ^ 64
  processId_lt : processId.natAbs < 2 ^ 64

/-- `orjson.dumps(kwargs).decode() if kwargs else None`; `none` is the
`TypeError` of `orjson.dumps`. -/
def extraOf (dumps : List (String × PyValue) → Option String)
    (others : List (String × PyValue)) : Option (Option String) :=
  if others = [] then some none else (dumps others).map some

/-- `_build_log_entry`, where `dumps` is `orjson.dumps`. -/
def buildLogEntry (python : Python)
    (dumps : List (String × PyValue) → Option String) (frame : Frame)
    (worker : Worker) (now : Moment) (name level message : String)
    (kwargs : Kwargs) : Option LogEntry :=
  (extraOf dumps kwargs.others).map fun extra => {
    timestamp := now
    level := python.upper level
    logger := name
    message := message
    moduleName := (kwargs.moduleName.filter filled).getD
      "app.audit_logs.redis_logger"
    function := (kwargs.function.filter filled).getD frame.function
    line := (kwargs.line.filter (· ≠ 0)).orElse fun _ => frame.line
    threadId := worker.threadId
    processId := worker.processId
    extra := extra }

/-! ## The stream -/

/-- The fields of a message of the stream. -/
abbrev Fields : Type :=
  List (String × String)

/-- The text fields of a dictionary, without those that are `None`; `none` is a
`ValueError`. -/
def serialized (items : List (String × EntryValue)) : Option Fields :=
  (items.filter fun item => item.2 ≠ .none).mapM fun item =>
    item.2.str.map fun text => (item.1, text)

/-- What `_flush` adds to its pipeline for an entry. -/
def flushFields (entry : LogEntry) : Option Fields :=
  serialized entry.items

/-- What `publish_immediate` adds for an entry. -/
def publishImmediateFields (entry : LogEntry) : Option Fields :=
  serialized entry.items

/-! ## Records -/

/-- A record for `audit_log_batch_insert`. -/
structure AuditRecord where
  timestamp : Moment
  level : String
  logger : String
  message : String
  moduleName : Option String
  function : Option String
  line : Option Int
  threadId : Option Int
  processId : Option Int
  extra : Option String
  deriving DecidableEq

/-- A text column, which the text `None` leaves null. -/
def textColumn (fields : Fields) (name : String) : Option String :=
  (fields.lookup name).filter (· ≠ "None")

/-- A number column, which an empty text or the text `None` leaves null. -/
def intColumn (python : Python) (fields : Fields) (name : String) :
    Except Exn (Option Int) :=
  match (fields.lookup name).filter fun text => filled text && text ≠ "None" with
  | none => .ok none
  | some text =>
      match python.int text with
      | some number => .ok (some number)
      | none => .error (.other "ValueError")

/-- The timestamp of a message, or the current time. -/
def timestampColumn (python : Python) (utcNow : Moment) (fields : Fields) :
    Moment :=
  let text := (fields.lookup "timestamp").getD
    (String.ofList (UtcTimestamp.isoformat utcNow))
  (python.fromisoformat (replaceZulu text)).getD utcNow

/-- The record of a message. -/
def recordOf (python : Python) (utcNow : Moment) (fields : Fields) :
    Except Exn AuditRecord := do
  let line ← intColumn python fields "line"
  let threadId ← intColumn python fields "thread_id"
  let processId ← intColumn python fields "process_id"
  return {
    timestamp := timestampColumn python utcNow fields
    level := (fields.lookup "level").getD "INFO"
    logger := (fields.lookup "logger").getD "audit"
    message := (fields.lookup "message").getD ""
    moduleName := textColumn fields "module"
    function := textColumn fields "function"
    line := line
    threadId := threadId
    processId := processId
    extra := (fields.lookup "extra").filter fun text =>
      text ≠ "None" && text ≠ "null" }

/-- The records of a batch; one message that cannot be read fails all. -/
def recordsOf (python : Python) (utcNow : Moment) (messages : List Fields) :
    Except Exn (List AuditRecord) :=
  messages.mapM (recordOf python utcNow)

end AuditLog

end HexIam
