/-
**The call log of one provider.**

A `CallLog` keeps two pieces of data about the calls of a provider: a ring of the last `historyMax`
rows and counters that are never capped. The operations are the ones of the source:

* `recordArrival` appends an `in_flight` row, `push` appends a row that is fully known;
* `finalize` fills in a row. A row of the present generation only moves its status; a row from
  before a `clear` is appended again, with a new time, and counted again;
* `setGrpcStatus`, `recordBody` and `recordPath` write one field of a row;
* `clear` empties the ring and the counters and starts the next generation.

A caller holds a reference to the row that it got and may give it back at any later time, so `rows`
keeps every row that was ever made and a reference is its position there. The ring holds references.

`step` is one operation, and a run is a list of them.
-/

import Mathlib.Tactic.Common
import ProviderSimulator.Lib.Machine
import ProviderSimulator.Python.Value

set_option linter.unusedSectionVars false

namespace ProviderSimulator.Domain

open ProviderSimulator.Lib ProviderSimulator.Python

/-! ### Rows -/

/-- A header value: gRPC gives the value of a `-bin` metadata key as bytes. -/
inductive HeaderValue
  | text (value : String)
  | bytes (value : List UInt8)
  deriving DecidableEq

/-- The headers of a request, in their order. -/
abbrev Headers := Dict String HeaderValue

/-- The functions of the standard library that a row is written with. -/
structure Codec where
  /-- `hashlib.sha256(body).hexdigest()`. -/
  sha256 : List UInt8 → String
  /-- `base64.b64encode(value).decode("ascii")`. -/
  b64encode : List UInt8 → String
  /-- `json.dumps(headers, separators=(",", ":"))`, for a dictionary of texts. -/
  dumps : Dict String String → String

/-- `_now_fields`: the time in seconds, and the same time as a text. -/
structure Stamp where
  now : ℚ
  text : String

/-- The endpoint that a row names. -/
structure Site where
  interface : String
  transport : String
  port : ℕ

/-- One row of the log. `resetGen` is the generation in which the row was counted last. -/
structure Row where
  ts : ℚ
  time : String
  requestId : Value
  method : Value
  status : String
  latencyMs : Value
  lavaHeaders : Dict String String
  deadlineRemainingMs : Value
  grpcStatus : Option String
  bodyLen : Option ℕ
  bodySha256 : Option String
  path : Option String
  pool : String
  pid : String
  name : String
  site : Site
  headersJson : String
  resetGen : ℕ

/-- `_header_value_as_text`. -/
def headerValueAsText (codec : Codec) : HeaderValue → String
  | .text value => value
  | .bytes value => codec.b64encode value

/-- Every header value as text. -/
def headersAsText (codec : Codec) (headers : Headers) : Dict String String :=
  headers.map fun header => (header.1, headerValueAsText codec header.2)

/-- `_headers_as_json`. -/
def headersAsJson (codec : Codec) (headers : Headers) : String :=
  if headers.isEmpty then "\x7b\x7d" else codec.dumps (headersAsText codec headers)

/-! ### The log -/

/-- The state of the log of one provider. -/
structure CallLog where
  pool : String
  pid : String
  name : String
  historyMax : ℕ
  rows : List Row
  history : List ℕ
  totalCalls : ℕ
  callsByStatus : Dict String ℕ
  resetGeneration : ℕ

/-- What a caller says about a new row. -/
structure Call where
  method : Value
  status : String
  latencyMs : Value
  requestId : Value
  site : Site
  lavaHeaders : Headers
  headers : Headers
  deadlineRemainingMs : Value

namespace CallLog

/-- A log without rows. -/
def new (pool pid name : String) (historyMax : ℕ) : CallLog where
  pool := pool
  pid := pid
  name := name
  historyMax := historyMax
  rows := []
  history := []
  totalCalls := 0
  callsByStatus := []
  resetGeneration := 0

/-- `_new_entry`, with the generation that its caller writes on it. -/
def newEntry (codec : Codec) (log : CallLog) (stamp : Stamp) (call : Call) : Row where
  ts := stamp.now
  time := stamp.text
  requestId := call.requestId
  method := call.method
  status := call.status
  latencyMs := call.latencyMs
  lavaHeaders := headersAsText codec call.lavaHeaders
  deadlineRemainingMs := call.deadlineRemainingMs
  grpcStatus := none
  bodyLen := none
  bodySha256 := none
  path := none
  pool := log.pool
  pid := log.pid
  name := log.name
  site := call.site
  headersJson := headersAsJson codec call.headers
  resetGen := log.resetGeneration

/-- `append` on a deque of a bounded length: a full one drops its oldest item. -/
def ringAppend (historyMax : ℕ) (history : List ℕ) (row : ℕ) : List ℕ :=
  (history ++ [row]).drop (history.length + 1 - historyMax)

/-- Append a row that is in `rows` already, and count it under a status. -/
def count (log : CallLog) (row : ℕ) (status : String) : CallLog :=
  { log with
    history := ringAppend log.historyMax log.history row
    totalCalls := log.totalCalls + 1
    callsByStatus := log.callsByStatus.bump status }

/-- Make a row, append it and count it. -/
def addRow (log : CallLog) (row : Row) : CallLog :=
  count { log with rows := log.rows ++ [row] } log.rows.length row.status

/-- `record_arrival`: the row is `in_flight`, and what is known of the request is its headers. -/
def recordArrival (codec : Codec) (log : CallLog) (stamp : Stamp) (site : Site)
    (lavaHeaders headers : Headers) (deadlineRemainingMs : Value) : CallLog :=
  log.addRow (log.newEntry codec stamp
    { method := .str "*", status := "in_flight", latencyMs := .int 0, requestId := .none,
      site := site, lavaHeaders := lavaHeaders, headers := headers,
      deadlineRemainingMs := deadlineRemainingMs })

/-- `push`: the row is complete, and it is no gRPC row. -/
def push (codec : Codec) (log : CallLog) (stamp : Stamp) (method : Value) (status : String)
    (latencyMs : Value) (site : Site) (requestId : Value) (lavaHeaders headers : Headers) : CallLog :=
  log.addRow (log.newEntry codec stamp
    { method := method, status := status, latencyMs := latencyMs, requestId := requestId,
      site := site, lavaHeaders := lavaHeaders, headers := headers, deadlineRemainingMs := .none })

/-- What `finalize` is told of the outcome. -/
structure Outcome where
  method : Value
  status : String
  latencyMs : Value
  requestId : Value

/-- The fields that `finalize` writes in every case. -/
def fillIn (row : Row) (outcome : Outcome) : Row :=
  { row with
    method := outcome.method
    latencyMs := outcome.latencyMs
    requestId := if outcome.requestId.isNone then row.requestId else outcome.requestId }

/-- `finalize`. -/
def finalize (log : CallLog) (stamp : Stamp) (ref : ℕ) (row : Row) (outcome : Outcome) : CallLog :=
  let filled := fillIn row outcome
  if row.resetGen ≠ log.resetGeneration then
    -- A clear landed between the arrival and now: the row is appended and counted again.
    let again := { filled with
      ts := stamp.now, time := stamp.text, status := outcome.status, resetGen := log.resetGeneration }
    count { log with rows := log.rows.set ref again } ref outcome.status
  else if row.status ≠ outcome.status then
    { log with
      rows := log.rows.set ref { filled with status := outcome.status }
      callsByStatus := (log.callsByStatus.lower row.status).bump outcome.status }
  else
    { log with rows := log.rows.set ref filled }

/-- `set_grpc_status`. -/
def setGrpcStatus (log : CallLog) (ref : ℕ) (row : Row) (grpcStatus : String) : CallLog :=
  { log with rows := log.rows.set ref { row with grpcStatus := some grpcStatus } }

/-- `record_body`. -/
def recordBody (codec : Codec) (log : CallLog) (ref : ℕ) (row : Row) (body : List UInt8) : CallLog :=
  let written := { row with bodyLen := some body.length, bodySha256 := some (codec.sha256 body) }
  { log with rows := log.rows.set ref written }

/-- `record_path`. -/
def recordPath (log : CallLog) (ref : ℕ) (row : Row) (path : String) : CallLog :=
  { log with rows := log.rows.set ref { row with path := some path } }

/-- `clear`. -/
def clear (log : CallLog) : CallLog :=
  { log with
    history := []
    totalCalls := 0
    callsByStatus := []
    resetGeneration := log.resetGeneration + 1 }

/-- The operations on a log. A reference is the position of the row that the caller holds. -/
inductive Op
  | recordArrival (stamp : Stamp) (site : Site) (lavaHeaders headers : Headers)
      (deadlineRemainingMs : Value)
  | push (stamp : Stamp) (method : Value) (status : String) (latencyMs : Value) (site : Site)
      (requestId : Value) (lavaHeaders headers : Headers)
  | finalize (stamp : Stamp) (ref : ℕ) (outcome : Outcome)
  | setGrpcStatus (ref : ℕ) (grpcStatus : String)
  | recordBody (ref : ℕ) (body : List UInt8)
  | recordPath (ref : ℕ) (path : String)
  | clear

/-- One operation. A reference that no caller can hold is the only thing that stops it. -/
def step (codec : Codec) (log : CallLog) : Op → Option CallLog
  | .recordArrival stamp site lavaHeaders headers deadline =>
      some (log.recordArrival codec stamp site lavaHeaders headers deadline)
  | .push stamp method status latencyMs site requestId lavaHeaders headers =>
      some (log.push codec stamp method status latencyMs site requestId lavaHeaders headers)
  | .finalize stamp ref outcome => (log.rows[ref]?).map fun row => log.finalize stamp ref row outcome
  | .setGrpcStatus ref grpcStatus => (log.rows[ref]?).map fun row => log.setGrpcStatus ref row grpcStatus
  | .recordBody ref body => (log.rows[ref]?).map fun row => log.recordBody codec ref row body
  | .recordPath ref path => (log.rows[ref]?).map fun row => log.recordPath ref row path
  | .clear => some log.clear

end CallLog

end ProviderSimulator.Domain
