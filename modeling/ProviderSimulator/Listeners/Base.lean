/-
**The request flow that every transport shares.**

`serve` records the arrival, takes a snapshot of the scenario, resolves the effective mode, parses the
request, merges the overrides of its method, and answers: with a canned body, with a fault, or with the
content of the chain. It gives a `ServeResult`, which says what to put on the wire, and it finishes the
history row of the request.

A listener fills in the `Hooks`. The flow is a program that reads the scenario of the provider
(`Lib.Flow`): the one snapshot of `serve`, and one more in the parse hook of the GraphQL listener. The
other things that it reads of the outside (the count of the window, the random draw, the quirks, the head
and the generated ids) are the `Env` of the request, and what it does to the outside are its `Effect`s.
-/

import Mathlib.Tactic.Common
import ProviderSimulator.Chains.Sui
import ProviderSimulator.FaultPolicy
import ProviderSimulator.Lib.Flow

namespace ProviderSimulator.Listeners

open ProviderSimulator.Lib ProviderSimulator.Python ProviderSimulator.Domain
open ProviderSimulator.FaultPolicy (Verdict windowActive resolveMode ladder targets)
open ProviderSimulator.Chains (Parsed Content responsesOf)

/-! ### Requests and results -/

/-- `RawRequest`. -/
structure RawRequest where
  body : Bytes := []
  headers : Dict String String := []
  verb : String := ""
  path : String := ""
  /-- The parsed query string: a list of texts for each name. -/
  query : Value := .dict []
  /-- The fields of a gRPC request message. -/
  message : Option (Dict String Value) := none
  /-- The subscription ids of the WebSocket connection that the frame arrived on. -/
  connection : Option (List String) := none

/-- What the transport does with a result. -/
inductive Action
  | respond
  | noBody
  | hang
  | drop
  deriving DecidableEq

/-- The body of a reply: a JSON value or a text, a gRPC status, or the data of a gRPC message. -/
inductive Body
  | value (value : Value)
  | grpcStatus (code : String) (text : Value)
  | grpcReply (method : String) (data : Value)
  deriving DecidableEq

/-- `ServeResult`. -/
structure ServeResult where
  action : Action
  status : Value := .int 200
  body : Body := .value .none
  dropAt : Value := .str "before_headers"
  latencyMs : Value := .int 0
  pauseAt : Value := .none
  pauseMs : Value := .int 0
  corruptionMode : Value := .none
  missingField : Value := .none
  suppressBody : Bool := false
  replyHeaders : Value := .dict []
  replyTrailers : Value := .dict []
  deriving DecidableEq

/-- `dict(value)` of what the scenario stores as chosen headers: null or an object. -/
def asDict : Value → Except PyError Value
  | .dict entries => .ok (.dict entries)
  | _ => .error .typeError

/-- `with_reply_headers`. -/
def withReplyHeaders (result : ServeResult) (chosen trailers : Value) : Except PyError ServeResult := do
  if !chosen.truthy && !trailers.truthy then pure result
  else
    let replyHeaders ← asDict chosen
    let replyTrailers ← asDict (trailers.orElse (.dict []))
    pure { result with replyHeaders, replyTrailers }

/-- The status of a history row that `serve` finished. -/
inductive Label
  | down
  | hang
  | dropConnection
  | rateLimit
  | error
  | success
  | parseError
  | notFound
  deriving DecidableEq

/-- The status of a row in the words of the source. -/
def Label.name : Label → String
  | .down => "down"
  | .hang => "hang"
  | .dropConnection => "drop_connection"
  | .rateLimit => "rate_limit"
  | .error => "error"
  | .success => "success"
  | .parseError => "parse_error"
  | .notFound => "not_found"

/-- How `parse_request` ends: with the parsed request, with a `DirectResponse`, or with a `ParseError`. -/
inductive Parse
  | parsed (request : Parsed)
  | direct (result : ServeResult) (method : String) (label : Label)
  | parseError (text : String)

/-! ### The outside of a request -/

/-- Where a listener stands: the chain of its provider, its endpoint, and the functions of the language. -/
structure Site where
  host : Host
  reader : GraphqlDocument.Reader
  chain : Chain
  endpoint : Endpoint

/-- What one request reads of the outside, apart from the scenario. -/
structure Env where
  /-- What `consume_fail` returns. -/
  count : ℕ
  /-- `random.random()`. -/
  roll : ℚ
  rollNonneg : 0 ≤ roll
  quirks : Quirks
  /-- The position of the head that the reply reads. -/
  head : ℤ
  /-- `_next_request_id()`. -/
  nextId : ℤ
  /-- `time.time()`. -/
  now : ℚ
  /-- `executed_snapshot()`. -/
  executed : Dict String ℚ
  /-- A generated subscription id. -/
  token : String
  /-- Does `unregister` find the subscription? -/
  unregistered : Bool

/-- The least draw. -/
theorem Env.least_roll : (0 : ℚ) ≤ 0 := le_rfl

/-- What a request does to the outside. -/
inductive Effect
  | recordArrival (headers : Dict String String)
  | recordBody (body : Bytes)
  | recordPath (path : String)
  | consumeFail
  | finalize (method : Value) (status : Label) (latencyMs requestId : Value)
  | rememberExecuted (digest : String) (time : ℚ)
  /-- A write into the `result` of the `default` entry of the stored scenario. -/
  | rewriteDefault (result : Value)
  | register (subscription : String) (method : String)
  | unregister (subscription : String)

/-- A part of the request flow. -/
abbrev Serving := Flow Scenario PyError Effect

/-- The key of a per-method override: a value, or the route of a REST request. -/
inductive MethodKey
  | value (key : Value)
  | route (verb template : Value)

/-- What a listener fills in. -/
structure Hooks where
  bodyForHistory : RawRequest → Option Bytes
  pathForHistory : RawRequest → Option String
  parseRequest : RawRequest → Serving Parse
  buildDown : ServeResult
  buildFault : Verdict → Parsed → Except PyError ServeResult
  buildContent : Parsed → Scenario → RawRequest → Serving (Value × Value)
  buildSuccess : Value → Value → Except PyError ServeResult
  buildBodyOverride : List (Key × Value) → Option ServeResult
  corrupt : ServeResult → Label → Scenario → ServeResult × Label
  methodKey : Parsed → Option MethodKey
  successLabel : Value → Value → Parsed → Except PyError Label
  requestMethod : Parsed → Value
  requestId : Parsed → Value
  responseId : Value → Value

/-! ### Overrides of a method -/

/-- `_METHOD_OVERRIDE_KEYS`. -/
def methodOverrideKeys : List ScenarioField :=
  [.mode, .latencyMs, .errorProbability, .errorCode, .errorMessage, .httpStatus, .dropAt]

/-- `responses.get(key)`. -/
def getMethod (responses : Value) : MethodKey → Except PyError (Option Value)
  | .value key => responses.getKey key
  | .route verb template => Chains.Lava.getRoute responses (verb, template)

/-- The entry of the request in `responses`, or the empty one. -/
def methodCfg (scenario : Scenario) (key : Option MethodKey) : Except PyError (List (Key × Value)) := do
  match key with
  | none => pure []
  | some key =>
      match ← getMethod (responsesOf scenario) key with
      | some (.dict cfg) => pure cfg
      | _ => pure []

/-- The entry that the flow reads: the filters of the scenario scope the overrides of a method too. -/
def entryFor (scenario : Scenario) (targeted : Bool) (key : Option MethodKey) :
    Except PyError (List (Key × Value)) :=
  if targeted then methodCfg scenario key else .ok []

/-- Does the entry shadow a fault key? -/
def shadows (cfg : List (Key × Value)) : Bool :=
  methodOverrideKeys.any fun field => Dict.has cfg (.text field.name)

/-- The scenario with the effective mode and the fault keys of the entry. -/
def merge (scenario : Scenario) (mode : Value) (cfg : List (Key × Value)) : Scenario := fun field =>
  let inherited := if field = .mode then mode else scenario field
  if field ∈ methodOverrideKeys then (Dict.get cfg (.text field.name)).getD inherited else inherited

/-! ### The flow -/

/-- `200 <= status < 300`. -/
def isSuccess (status : Value) : Except PyError Bool := do
  if ← (Value.int 200).lessEq status then status.less (.int 300) else pure false

/-- `_STATUS_LABEL`. -/
def verdictLabel : Verdict → Label
  | .down => .down
  | .hang => .hang
  | .drop _ => .dropConnection
  | .rateLimit _ _ => .rateLimit
  | .error _ _ _ _ => .error
  | .none => .success

/-- The verdict of the ladder for a targeted request, and none for any other. -/
def verdictFor (targeted : Bool) (mode : Value) (merged : Scenario) (roll : ℚ) : Except PyError Verdict :=
  if targeted then ladder mode merged roll else .ok .none

/-- What the snapshot decides of a request before its body is read. -/
structure Policy where
  targeted : Bool
  mode : Value
  latency : Value
  chosen : Value
  trailers : Value

/-- The policy of a request whose effective mode is known. -/
def policy (scenario : Scenario) (targeted : Bool) (mode : Value) : Policy :=
  if targeted then
    { targeted, mode, latency := scenario .latencyMs
      chosen := (scenario .replyHeaders).orElse (.dict [])
      trailers := (scenario .replyTrailers).orElse (.dict []) }
  else { targeted, mode, latency := .int 0, chosen := .dict [], trailers := .dict [] }

/-- A reply that the flow has decided: what to send, and what the history row says. -/
structure Decided where
  result : ServeResult
  label : Label
  requestId : Value
  latency : Value
  /-- Does the provider wait for the latency? -/
  waited : Bool := true

section

variable (site : Site) (hooks : Hooks) (env : Env)

/-- The end of the flow: latency, corruption and pause, the history row, and the chosen headers. -/
def finish (scenario : Scenario) (policy : Policy) (parsed : Parsed) (decided : Decided) :
    Serving ServeResult := do
  let result := decided.result
  let result :=
    if result.action = .respond ∨ result.action = .drop then { result with latencyMs := decided.latency }
    else result
  let (result, label) :=
    if result.action = .respond ∧ policy.targeted then
      let (corrupted, label) := hooks.corrupt result decided.label scenario
      ({ corrupted with pauseAt := scenario .pauseAt, pauseMs := (scenario .pauseMs).orElse (.int 0) }, label)
    else (result, decided.label)
  let latency := if decided.waited then decided.latency else .int 0
  Flow.leave (.finalize (hooks.requestMethod parsed) label latency decided.requestId)
  Flow.ofExcept (withReplyHeaders result policy.chosen policy.trailers)

/-- The success content of a request. -/
def succeed (scenario : Scenario) (latency : Value) (parsed : Parsed) (request : RawRequest) :
    Serving Decided := do
  let (status, body) ← hooks.buildContent parsed scenario request
  let result ← Flow.ofExcept (hooks.buildSuccess status body)
  let label ← Flow.ofExcept (hooks.successLabel status body parsed)
  pure { result, label, requestId := (hooks.responseId body).orElse (hooks.requestId parsed), latency }

/-- A canned body of an entry, whose status decides its label. -/
def cannedReply (latency : Value) (parsed : Parsed) (result : ServeResult) : Except PyError Decided := do
  let label := if ← isSuccess result.status then Label.success else .error
  pure { result, label, requestId := hooks.requestId parsed, latency }

/-- The per-method down: the row has the real method and id, and the latency is paid. -/
def answerDown (policy : Policy) (latency : Value) (parsed : Parsed) : Serving ServeResult := do
  Flow.leave (.finalize (hooks.requestMethod parsed) .down latency (hooks.requestId parsed))
  Flow.ofExcept
    (withReplyHeaders { hooks.buildDown with latencyMs := latency } policy.chosen policy.trailers)

/-- The answer by the fault ladder, or else by the chain. -/
def answerVerdict (scenario : Scenario) (policy : Policy) (latency : Value) (parsed : Parsed)
    (request : RawRequest) (verdict : Verdict) : Serving ServeResult :=
  match verdict with
  | .down => answerDown hooks policy latency parsed
  | .none => do
      let decided ← succeed hooks scenario latency parsed request
      finish hooks scenario policy parsed decided
  | fault => do
      let result ← Flow.ofExcept (hooks.buildFault fault parsed)
      let waited := match fault with
        | .hang => false
        | _ => true
      finish hooks scenario policy parsed
        { result, label := verdictLabel fault, requestId := hooks.requestId parsed, latency, waited }

/-- The answer to a parsed request. -/
def answerParsed (scenario : Scenario) (policy : Policy) (parsed : Parsed) (request : RawRequest) :
    Serving ServeResult := do
  let cfg ← Flow.ofExcept (entryFor scenario policy.targeted (hooks.methodKey parsed))
  let merged := if shadows cfg then merge scenario policy.mode cfg else scenario
  let mode := if shadows cfg then merged .mode else policy.mode
  let latency := if shadows cfg then merged .latencyMs else policy.latency
  match if cfg.isEmpty then none else hooks.buildBodyOverride cfg with
  | some result => do
      let decided ← Flow.ofExcept (cannedReply hooks latency parsed result)
      finish hooks scenario policy parsed decided
  | none => do
      let verdict ← Flow.ofExcept (verdictFor policy.targeted mode merged env.roll)
      answerVerdict hooks scenario policy latency parsed request verdict

/-- `build_parse_error`. -/
def buildParseError (text : String) : ServeResult where
  action := .respond
  status := .int 400
  body := .value (.object [
    ("jsonrpc", .str "2.0"), ("id", .none),
    ("error", .object [("code", .int (-32700)), ("message", .str ("Parse error: " ++ text))])])

/-- A row that is finished with no request id and no wait. -/
def finishEarly (policy : Policy) (method : String) (label : Label) (result : ServeResult) :
    Serving ServeResult := do
  Flow.leave (.finalize (.str method) label (.int 0) .none)
  Flow.ofExcept (withReplyHeaders result policy.chosen policy.trailers)

/-- The flow after the snapshot. -/
def answer (request : RawRequest) (scenario : Scenario) : Serving ServeResult := do
  let active ← Flow.ofExcept (windowActive scenario site.endpoint)
  Flow.leaveAll (if active then [.consumeFail] else [])
  let (targeted, mode) ← Flow.ofExcept (resolveMode scenario site.endpoint env.count)
  let policy := policy scenario targeted mode
  if targeted && mode.eqText "down" then finishEarly policy "*" .down hooks.buildDown
  else
    match ← hooks.parseRequest request with
    | .direct result method label => finishEarly policy method label result
    | .parseError text => finishEarly policy "*" .parseError (buildParseError text)
    | .parsed parsed => answerParsed hooks env scenario policy parsed request

/-- What is recorded before the snapshot. A request whose adapter recorded the arrival comes with its
row. -/
def arrival (request : RawRequest) (arrived : Bool) : Serving Unit := do
  Flow.leaveAll (if arrived then [] else [.recordArrival request.headers])
  Flow.leaveAll ((hooks.bodyForHistory request).toList.map .recordBody)
  Flow.leaveAll ((hooks.pathForHistory request).toList.map .recordPath)

/-- `Listener.serve`. -/
def serve (request : RawRequest) (arrived : Bool) : Serving ServeResult := do
  arrival hooks request arrived
  let scenario ← Flow.snapshot
  answer site hooks env request scenario

end

/-! ### Default hooks -/

/-- The default `success_label`. -/
def successLabel (body : Value) : Label :=
  match body with
  | .dict entries => if Dict.has entries (.text "error") then .error else .success
  | _ => .success

/-- The default `response_id`. -/
def responseId : Value → Value
  | .dict entries => (Dict.get entries (.text "id")).getD .none
  | _ => .none

/-- The default `corrupt`: mark the reply, and keep the label. -/
def corrupt (result : ServeResult) (label : Label) (scenario : Scenario) : ServeResult × Label :=
  ({ result with corruptionMode := scenario .corruptionMode, missingField := scenario .missingField }, label)

/-- The default `build_down`. -/
def buildDown : ServeResult := { action := .noBody, status := .int 503 }

/-- The default `method_key`: the method name, if there is one. -/
def methodKey (request : Parsed) : Option MethodKey :=
  let method := request.get "method"
  if method.isNone then none else some (.value method)

/-- A canned `{status, body}` reply, which JSON-RPC and GraphQL serve. -/
def bodyOverride (cfg : List (Key × Value)) : Option ServeResult :=
  match Dict.get cfg (.text "body") with
  | none => none
  | some body =>
      if body.isNone then none
      else
        some {
          action := .respond, status := (Dict.get cfg (.text "status")).getD (.int 200)
          body := .value body }

/-- `build_success` of the interfaces whose content is a JSON body. -/
def buildSuccess (status body : Value) : ServeResult := { action := .respond, status, body := .value body }

/-- The default `build_content`: ask the chain. -/
def chainContent (site : Site) (env : Env) (parsed : Parsed) (scenario : Scenario) : Serving Content := do
  let content ← Flow.ofExcept (Chains.buildSuccess site.host site.reader site.chain
    site.endpoint.interface parsed scenario env.quirks env.head)
  Flow.leaveAll (content.rewritten.toList.map .rewriteDefault)
  pure content

end ProviderSimulator.Listeners
