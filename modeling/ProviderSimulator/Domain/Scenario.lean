/-
**The fault configuration of a provider.**

`ScenarioConfig` has one value for each `ScenarioField`. The class checks what it can see of an update
on its own (`validate`): the shape of the two endpoint filters, a pause that cannot happen, the reply
to an unreadable body and the chosen headers and trailers. The rules that need the endpoints of the
provider, and the types of the other fields, belong to the control API.

A validator raises `ValueError` with a text, which the control API answers with a 400, or it fails on a
value that it does not expect, which nothing catches. `Raised` keeps the two apart.

`StoredFilters` is what the two filter checks leave true of a stored block, whatever was written before:
a `transports` that can be searched and that holds transports only, and a `ports` that is null or a list. `ScenarioConfig` carries it,
so no reader of a stored block fails on its filters.
-/

import Mathlib.Tactic.Common
import ProviderSimulator.Domain.Endpoint
import ProviderSimulator.Domain.IntrospectiveConfig

set_option linter.unusedSectionVars false

namespace ProviderSimulator.Domain

open ProviderSimulator.Lib ProviderSimulator.Python

/-! ### Fields -/

/-- The fields of `ScenarioConfig`, in their order. -/
inductive ScenarioField
  | mode
  | latencyMs
  | errorProbability
  | errorCode
  | errorMessage
  | httpStatus
  | rateLimitBody
  | rateLimitStyle
  | errorBody
  | unreadableReply
  | responses
  | corruptionMode
  | missingField
  | blocksBehind
  | failFirstN
  | thenMode
  | dropAt
  | pauseAt
  | pauseMs
  | transports
  | ports
  | replyHeaders
  | replyTrailers
  deriving DecidableEq

namespace ScenarioField

/-- The name of a field on the wire. -/
def name : ScenarioField → String
  | .mode => "mode"
  | .latencyMs => "latency_ms"
  | .errorProbability => "error_probability"
  | .errorCode => "error_code"
  | .errorMessage => "error_message"
  | .httpStatus => "http_status"
  | .rateLimitBody => "rate_limit_body"
  | .rateLimitStyle => "rate_limit_style"
  | .errorBody => "error_body"
  | .unreadableReply => "unreadable_reply"
  | .responses => "responses"
  | .corruptionMode => "corruption_mode"
  | .missingField => "missing_field"
  | .blocksBehind => "blocks_behind"
  | .failFirstN => "fail_first_n"
  | .thenMode => "then_mode"
  | .dropAt => "drop_at"
  | .pauseAt => "pause_at"
  | .pauseMs => "pause_ms"
  | .transports => "transports"
  | .ports => "ports"
  | .replyHeaders => "reply_headers"
  | .replyTrailers => "reply_trailers"

/-- Every field, in the order of the class. -/
def all : List ScenarioField :=
  [.mode, .latencyMs, .errorProbability, .errorCode, .errorMessage, .httpStatus, .rateLimitBody,
    .rateLimitStyle, .errorBody, .unreadableReply, .responses, .corruptionMode, .missingField,
    .blocksBehind, .failFirstN, .thenMode, .dropAt, .pauseAt, .pauseMs, .transports, .ports,
    .replyHeaders, .replyTrailers]

/-- The default of a field. -/
def default : ScenarioField → Value
  | .mode => .str "success"
  | .latencyMs => .int 0
  | .errorProbability => .float (.finite 0)
  | .errorCode => .int (-32000)
  | .errorMessage => .str "Internal error"
  | .httpStatus => .int 200
  | .rateLimitBody =>
      .str "Rate limit exceeded. Reduce your request rate, or use an API key for a higher limit."
  | .rateLimitStyle => .str "status"
  | .errorBody => .none
  | .unreadableReply => .none
  | .responses => .dict []
  | .corruptionMode => .none
  | .missingField => .none
  | .blocksBehind => .int 0
  | .failFirstN => .int 0
  | .thenMode => .str "success"
  | .dropAt => .str "before_headers"
  | .pauseAt => .none
  | .pauseMs => .int 0
  | .transports => .none
  | .ports => .none
  | .replyHeaders => .none
  | .replyTrailers => .none

/-- The field with a name, if there is one. -/
def ofName (wanted : String) : Option ScenarioField := all.find? fun field => field.name = wanted

theorem ofName_eq_some {wanted : String} {field : ScenarioField} (found : ofName wanted = some field) :
    field.name = wanted := by
  have holds := List.find?_some found
  simpa using holds

end ScenarioField

/-- One value for each field: a stored block, or a snapshot of it. -/
abbrev Scenario := ScenarioField → Value

/-- A partial block of an update. -/
abbrev ScenarioUpdates := Block ScenarioField

/-! ### Refusals -/

/-- What `ScenarioConfig` refuses, with what its text names. -/
inductive ScenarioRefusal
  | unknownTransports (bad : List Value)
  | portsNoList (ports : Value)
  | portsEmpty
  | portsNoPorts (bad : List Value)
  | pauseWithMode (pauseAt mode : Value)
  | pauseWithTransports (pauseAt transports : Value)
  | pauseMsAlone (pauseMs : Value)
  | rateLimitStyle (style : Value)
  | unreadableReply (reply : Value)
  | chosenNoObject (field : ScenarioField) (chosen : Value)
  | chosenName (field : ScenarioField) (name : Value)
  | chosenValue (field : ScenarioField) (name value : Value)
  | chosenOwnedBySimulator (name : Value)
  | chosenOwnedByGrpc (field : ScenarioField) (name : Value)
  | chosenBinary (field : ScenarioField) (name : Value)
  | chosenPushback (field : ScenarioField) (name value : Value)
  | chosenTwice (field : ScenarioField) (name : Value)
  | trailersWithTransports (transports : Value)

/-- The text of a refusal, where `repr` is the function of the language. -/
def ScenarioRefusal.text (repr : Value → String) : ScenarioRefusal → String
  | .unknownTransports bad =>
      "unknown transport(s) " ++ repr (.list bad) ++
        "; valid transports are ['http', 'http2', 'ws'] (interfaces like 'grpc'/'rest' are not " ++
        "transports — gRPC runs over 'http2', REST over 'http')"
  | .portsNoList ports => "ports must be a list of integers or None, got " ++ repr ports
  | .portsEmpty =>
      "ports must not be empty; use None for 'every endpoint'. An empty list would target no " ++
        "endpoint, so no fault would apply and the provider would answer normally"
  | .portsNoPorts bad => "ports must be integers in [1, 65535], got " ++ repr (.list bad)
  | .pauseWithMode pauseAt mode =>
      "pause_at=" ++ repr pauseAt ++ " cannot apply with mode=" ++ repr mode ++
        ": that mode answers, or refuses to answer, before the reply is written, so the hold would " ++
        "never happen. Use mode='success' for a pause, or drop pause_at"
  | .pauseWithTransports pauseAt transports =>
      "pause_at=" ++ repr pauseAt ++ " cannot apply with transports=" ++ repr transports ++
        ": a pause is performed by the HTTP adapter, which serves the 'http' transport. The " ++
        "WebSocket and gRPC wires have their own performers and no pause branch, so the hold would " ++
        "never happen"
  | .pauseMsAlone pauseMs =>
      "pause_ms=" ++ repr pauseMs ++ " has no effect without pause_at: nothing decides WHERE to " ++
        "hold. Set pause_at to 'after_headers' or 'mid_body'"
  | .rateLimitStyle style =>
      "rate_limit_style must be one of ['status', 'body'], got " ++ repr style
  | .unreadableReply reply =>
      "unreadable_reply must be null or \x7b\"status\": an integer from 100 to 599, \"body\": any " ++
        "JSON value or text\x7d, got " ++ repr reply
  | .chosenNoObject field chosen =>
      field.name ++ " must be an object of names and text values, or null, got " ++ repr chosen
  | .chosenName field name =>
      field.name ++ ": " ++ repr name ++ " is not an HTTP header name that gRPC metadata can hold. " ++
        "A name is letters, digits, '-', '_' and '.'"
  | .chosenValue field name value =>
      field.name ++ "[" ++ repr name ++ "] must be text of visible ASCII characters and spaces, got " ++
        repr value ++ ". Write a number as text, such as '5'"
  | .chosenOwnedBySimulator name =>
      "reply_headers cannot set " ++ repr name ++ ": the simulator writes it itself. Connection, " ++
        "Content-Length and Transfer-Encoding frame the reply, Upgrade and Sec-WebSocket-Accept " ++
        "frame the WebSocket handshake, and Content-Type names the provider"
  | .chosenOwnedByGrpc field name =>
      field.name ++ " cannot set " ++ repr name ++ ": the gRPC library of the simulator drops that " ++
        "name or sends its own value, and grpc-timeout stops the simulator"
  | .chosenBinary field name =>
      field.name ++ " cannot set " ++ repr name ++ ": a gRPC name that ends in '-bin' carries bytes, " ++
        "and a text value ends the call"
  | .chosenPushback field name value =>
      field.name ++ "[" ++ repr name ++ "] must be a whole number of milliseconds from " ++
        "-9223372036854775808 to 9223372036854775807 with no leading zero, such as '5000', got " ++
        repr value ++ ": the gRPC library sends another value as -9223372036854775808 or rewrites it"
  | .chosenTwice field name =>
      field.name ++ " names " ++ repr name ++ " twice: names do not depend on letter case, so the " ++
        "two entries are one name with two values"
  | .trailersWithTransports transports =>
      "reply_trailers cannot apply with transports=" ++ repr transports ++ ": only the gRPC adapter " ++
        "('http2') writes trailing metadata, so the trailers would reach no reply"

/-! ### The rules of the class -/

section

variable (cfg : ScenarioUpdates)

/-- The characters of a chosen header or trailer name. -/
def isChosenNameChar (char : Char) : Bool :=
  char = '-' || char = '_' || char = '.' || char.isDigit || char.isAlpha

/-- A visible ASCII character, or a space. -/
def isVisible (char : Char) : Bool := ' ' ≤ char && char ≤ '~'

/-- `_HEADERS_THE_SIMULATOR_OWNS`. -/
def headersTheSimulatorOwns : List String :=
  ["connection", "content-length", "content-type", "sec-websocket-accept", "transfer-encoding",
    "upgrade"]

/-- `_NAMES_THE_GRPC_LIBRARY_OWNS`. -/
def namesTheGrpcLibraryOwns : List String :=
  ["content-length", "content-type", "grpc-accept-encoding", "grpc-encoding",
    "grpc-internal-encoding-request", "grpc-message", "grpc-previous-rpc-attempts", "grpc-status",
    "grpc-timeout", "te"]

/-- `_MODES_THAT_NEVER_REACH_A_PAUSE`. -/
def modesThatNeverReachAPause : List String := ["down", "hang", "drop_connection", "port_closed"]

/-- The number of a text of digits with no leading zero. -/
def digits : List Char → Option ℕ
  | [] => none
  | first :: rest =>
      if first ≠ '0' && (first :: rest).all Char.isDigit then
        some ((first :: rest).foldl (fun value char => 10 * value + (char.toNat - '0'.toNat)) 0)
      else none

/-- The number of a text that `_WHOLE_NUMBER` matches. -/
def wholeNumber (text : String) : Option ℤ :=
  match text.toList with
  | ['0'] => some 0
  | '-' :: rest => (digits rest).map fun value => -(value : ℤ)
  | chars => (digits chars).map fun value => (value : ℤ)

/-- Is the text a whole number in the signed 64-bit range? -/
def isSigned64 (text : String) : Bool :=
  match wholeNumber text with
  | some value => -(2 ^ 63 : ℤ) ≤ value && value < 2 ^ 63
  | none => false

/-- `_validate_transports`. -/
def validateTransports : Except (Raised ScenarioRefusal) Unit :=
  match cfg.given .transports with
  | .none => .ok ()
  | transports => do
      let items ← lift transports.iterate
      let bad := items.filter fun item => !isTransport item
      refuseIf (!bad.isEmpty) (.unknownTransports bad)

/-- Is the value an integer that can be a port? -/
def isPort (value : Value) : Bool :=
  match value.asInt with
  | some port => 1 ≤ port && port ≤ 65535
  | none => false

/-- `_validate_ports`. -/
def validatePorts : Except (Raised ScenarioRefusal) Unit :=
  match cfg.given .ports with
  | .none => .ok ()
  | .list ports => do
      refuseIf ports.isEmpty .portsEmpty
      let bad := ports.filter fun port => !isPort port
      refuseIf (!bad.isEmpty) (.portsNoPorts bad)
  | other => .error (.refused (.portsNoList other))

/-- `_validate_pause`. Only what one block holds is looked at. -/
def validatePause : Except (Raised ScenarioRefusal) Unit := do
  let pauseAt := cfg.given .pauseAt
  let mode := cfg.given .mode
  refuseIf (pauseAt.truthy && modesThatNeverReachAPause.any fun word => mode.eqText word)
    (.pauseWithMode pauseAt mode)
  let transports := cfg.given .transports
  if pauseAt.truthy && !transports.isNone then
    let http ← lift (transports.contains "http")
    refuseIf (!http) (.pauseWithTransports pauseAt transports)
  let pauseMs := cfg.given .pauseMs
  refuseIf (pauseMs.truthy && cfg.names .pauseAt && !pauseAt.truthy) (.pauseMsAlone pauseMs)

/-- `_validate_rate_limit_style`. -/
def validateRateLimitStyle : Except (Raised ScenarioRefusal) Unit :=
  let style := cfg.given .rateLimitStyle
  refuseIf (cfg.names .rateLimitStyle && !(style.eqText "status" || style.eqText "body"))
    (.rateLimitStyle style)

/-- Can the value be the reply to a body that is no request? -/
def isUnreadableReply : Value → Bool
  | .dict entries =>
      (Dict.keys entries).all (fun key => key = .text "status" || key = .text "body") &&
        match (Dict.get entries (.text "status")).bind Value.asInt with
        | some status => 100 ≤ status && status ≤ 599
        | none => false
  | _ => false

/-- `_validate_unreadable_reply`. -/
def validateUnreadableReply : Except (Raised ScenarioRefusal) Unit :=
  match cfg.given .unreadableReply with
  | .none => .ok ()
  | reply => refuseIf (!isUnreadableReply reply) (.unreadableReply reply)

/-- One entry of the chosen headers or trailers, after the names in `seen`. -/
def validateChosenEntry (field : ScenarioField) (seen : List String) (key : Key) (value : Value) :
    Except (Raised ScenarioRefusal) String := do
  let name := Value.ofKey key
  match key with
  | .pair _ _ => .error (.refused (.chosenName field name))
  | .text text =>
      refuseIf (text.isEmpty || text.toList.any fun char => !isChosenNameChar char)
        (.chosenName field name)
      let content ← match value with
        | .str content => pure content
        | other => .error (.refused (.chosenValue field name other))
      refuseIf (content.toList.any fun char => !isVisible char) (.chosenValue field name value)
      let lowered := text.map Char.toLower
      refuseIf (field = .replyHeaders && headersTheSimulatorOwns.contains lowered)
        (.chosenOwnedBySimulator name)
      refuseIf (namesTheGrpcLibraryOwns.contains lowered) (.chosenOwnedByGrpc field name)
      refuseIf ("-bin".toList.isSuffixOf lowered.toList) (.chosenBinary field name)
      refuseIf (lowered = "grpc-retry-pushback-ms" && !isSigned64 content)
        (.chosenPushback field name value)
      refuseIf (seen.contains lowered) (.chosenTwice field name)
      pure lowered

/-- The loop over the chosen headers or trailers. -/
def validateChosenEntries (field : ScenarioField) :
    List (Key × Value) → List String → Except (Raised ScenarioRefusal) Unit
  | [], _ => .ok ()
  | (key, value) :: rest, seen => do
      let lowered ← validateChosenEntry field seen key value
      validateChosenEntries field rest (lowered :: seen)

/-- `_validate_chosen`. -/
def validateChosen (field : ScenarioField) : Except (Raised ScenarioRefusal) Unit :=
  match cfg.given field with
  | .none => .ok ()
  | .dict chosen => do
      validateChosenEntries field chosen []
      let transports := cfg.given .transports
      if field = .replyTrailers && !chosen.isEmpty && !transports.isNone then
        let grpc ← lift (transports.contains "http2")
        refuseIf (!grpc) (.trailersWithTransports transports)
  | other => .error (.refused (.chosenNoObject field other))

/-- `_validate`, and so `check`: each key of a block is a field. -/
def validate : Except (Raised ScenarioRefusal) Unit := do
  validateTransports cfg
  validatePorts cfg
  validatePause cfg
  validateRateLimitStyle cfg
  validateUnreadableReply cfg
  validateChosen cfg .replyHeaders
  validateChosen cfg .replyTrailers

end

/-! ### Stored blocks -/

/-- What the filter checks leave true of a stored block. -/
structure StoredFilters (values : Scenario) : Prop where
  transports : values .transports = .none ∨ ∃ items, (values .transports).iterate = .ok items ∧
    ∀ item ∈ items, isTransport item = true
  ports : values .ports = .none ∨ ∃ first rest, values .ports = .list (first :: rest)

/-- A stored block. -/
structure ScenarioConfig where
  values : Scenario
  stored : StoredFilters values

/-- A block at its defaults. -/
def ScenarioConfig.default : ScenarioConfig := ⟨ScenarioField.default, ⟨.inl rfl, .inl rfl⟩⟩

theorem validate_eq_ok {cfg : ScenarioUpdates} (passed : validate cfg = .ok ()) :
    validateTransports cfg = .ok () ∧ validatePorts cfg = .ok () := by
  obtain ⟨_, transports, later⟩ := bind_eq_ok passed
  obtain ⟨_, ports, -⟩ := bind_eq_ok later
  exact ⟨transports, ports⟩

/-- A `transports` value that passes can be iterated over, and names transports only. -/
theorem validateTransports_eq_ok {cfg : ScenarioUpdates} (passed : validateTransports cfg = .ok ()) :
    cfg.given .transports = .none ∨ ∃ items, (cfg.given .transports).iterate = .ok items ∧
      ∀ item ∈ items, isTransport item = true := by
  unfold validateTransports at passed
  split at passed
  · next same => exact .inl same
  · obtain ⟨items, iterated, later⟩ := bind_eq_ok passed
    have none_bad := refuseIf_eq_ok later
    refine .inr ⟨items, lift_eq_ok iterated, fun item member => ?_⟩
    by_contra bad
    have listed : item ∈ items.filter fun item => !isTransport item :=
      List.mem_filter.mpr ⟨member, by simpa using bad⟩
    simp only [Bool.not_eq_false', List.isEmpty_iff] at none_bad
    rw [none_bad] at listed
    cases listed

/-- A `ports` value that passes is null or a list with an item. -/
theorem validatePorts_eq_ok {cfg : ScenarioUpdates} (passed : validatePorts cfg = .ok ()) :
    cfg.given .ports = .none ∨ ∃ first rest, cfg.given .ports = .list (first :: rest) := by
  unfold validatePorts at passed
  split at passed
  · next same => exact .inl same
  · next ports same =>
      obtain ⟨_, filled, -⟩ := bind_eq_ok passed
      cases ports with
      | nil => cases refuseIf_eq_ok filled
      | cons first rest => exact .inr ⟨first, rest, same⟩
  · cases passed

/-- **An update that passes its check keeps the filters readable.** -/
theorem StoredFilters.over {values : Scenario} {cfg : ScenarioUpdates}
    (stored : StoredFilters values) (passed : validate cfg = .ok ()) :
    StoredFilters (cfg.over values) := by
  obtain ⟨transports, ports⟩ := validate_eq_ok passed
  refine ⟨?_, ?_⟩
  · rcases cfg.over_given values .transports with new | old
    · rw [new]
      exact validateTransports_eq_ok transports
    · rw [old]
      exact stored.transports
  · rcases cfg.over_given values .ports with new | old
    · rw [new]
      exact validatePorts_eq_ok ports
    · rw [old]
      exact stored.ports

namespace ScenarioConfig

/-- `update`: the rules of the class first, and then the write. -/
def update (config : ScenarioConfig) (cfg : ScenarioUpdates) :
    Except (Raised ScenarioRefusal) ScenarioConfig :=
  match passed : validate cfg with
  | .error refusal => .error refusal
  | .ok () => .ok ⟨cfg.over config.values, config.stored.over passed⟩

/-- **An update that passes its check writes the block.** -/
theorem update_of_validate (config : ScenarioConfig) {cfg : ScenarioUpdates}
    (passed : validate cfg = .ok ()) :
    ∃ written, config.update cfg = .ok written ∧ written.values = cfg.over config.values := by
  refine ⟨⟨cfg.over config.values, config.stored.over passed⟩, ?_, rfl⟩
  unfold update
  split
  · next refusal refused =>
      rw [passed] at refused
      cases refused
  · rfl

end ScenarioConfig

end ProviderSimulator.Domain
