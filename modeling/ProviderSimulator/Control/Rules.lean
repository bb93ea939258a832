/-
**The rules of `POST /scenario` outside the config classes.**

Each rule of the control API reads one block of the request, and some read the provider and what it
already stores. A rule ends in a refusal, with the text that the answer carries, or it lets the block
through, or it fails on a value that it does not expect.

* `badEnum`, `badNumber` and `normaliseResponses` look at one field;
* `portsTheProviderDoesNotServe` and the rules after it look at a whole block and at the endpoints of the
  provider; those that read the stored block read it merged with the new one (`Block.over`);
* `aPortClosedThatCannotHappen` is the rule of `mode="port_closed"`.
-/

import Mathlib.Tactic.Common
import ProviderSimulator.Domain.Provider
import ProviderSimulator.FaultPolicy

namespace ProviderSimulator.Control

open ProviderSimulator.Lib ProviderSimulator.Python ProviderSimulator.Domain
open ProviderSimulator.FaultPolicy

/-! ### Vocabularies -/

/-- `_MODES`, sorted. -/
def modes : List String :=
  ["down", "drop_connection", "error", "hang", "port_closed", "rate_limit", "success"]

/-- `_PER_METHOD_MODES`, sorted. -/
def perMethodModes : List String := ["down", "drop_connection", "hang", "rate_limit", "success"]

/-- `_CORRUPTION_MODES`, sorted. -/
def corruptionModes : List String :=
  ["empty_response", "invalid_json", "invalid_proto", "missing_field", "null_body", "truncated",
    "wrong_type"]

/-- `_ENUMS`, each set sorted. -/
def enums : String → Option (List String)
  | "mode" => some modes
  | "corruption_mode" => some corruptionModes
  | "drop_at" => some ["after_headers", "before_headers", "mid_body"]
  | "pause_at" => some ["after_headers", "mid_body"]
  | "then_mode" => some modes
  | "logs_lag_mode" => some ["empty", "partial"]
  | "unknown_method_mode" => some ["error", "null"]
  | _ => none

/-! ### Refusals -/

/-- What the rules refuse, with what the text names. -/
inductive RuleRefusal
  | pauseBeforeHeaders
  | thenModePortClosed
  | noWord (field : String) (value : Value) (allowed : List String)
  | noProbability (value : Value)
  | noCount (field : String) (value : Value)
  | noRate (value : Value)
  | responsesNoPair
  | responsesNoRouteKey
  | responsesError
  | responsesPortClosed (method : Value)
  | responsesMode (mode method : Value)
  | responsesBodyNoObject (method : String)
  | responsesBodyWithMode (method : String)
  | responsesBodyStatus (statusKey method : String) (status : Value)
  | responsesShape
  | portsNotServed (unknown : List Value) (served : List ℕ)
  | pauseNoHttpPort (pauseAt : Value) (ports : List Value) (httpPorts : List ℕ)
  | chosenNoWriter (field : ScenarioField) (transports ports : Value) (endpoints : List Endpoint)
  | invalidJsonOnlyGrpc
  | invalidProtoNoGrpc
  | graphqlField (field : ScenarioField) (endpoints : List Endpoint)
  | cannedBody (method : String) (endpoints : List Endpoint)
  | portClosedTargetsNone (transports ports : Value) (endpoints : List Endpoint)
  | portClosedNoListener (ports : List ℕ)
  | portClosedWithRequestFault (field : ScenarioField) (value : Value)

/-- The status of the answer. -/
def RuleRefusal.status : RuleRefusal → ℕ
  | .portClosedNoListener _ => 409
  | _ => 400

/-- `sorted` on ports. -/
def sortedPorts (ports : List ℕ) : List ℕ := ports.mergeSort fun a b => decide (a ≤ b)

/-- A list of ports as a value. -/
def portList (ports : List ℕ) : Value := .list (ports.map fun port => .int port)

/-- `_endpoints_text`. -/
def endpointsText (endpoints : List Endpoint) : String :=
  String.intercalate ", " (endpoints.map fun endpoint =>
    endpoint.interface.name ++ "/" ++ endpoint.transport.name ++ " :" ++ toString endpoint.port)

/-- `_NEEDS_A_REQUEST`: the fields, what each does, and the text of its unset value. -/
def needsARequest : List (ScenarioField × String × String) :=
  [(.failFirstN, "counts the requests that arrive", "0"),
    (.errorProbability, "is rolled once for each request that arrives", "0.0"),
    (.latencyMs, "delays the reply to a request", "0"),
    (.corruptionMode, "breaks the body of a reply", "None"),
    (.pauseAt, "holds a reply part way through", "None")]

/-- What a field of `_NEEDS_A_REQUEST` does, and the text of its unset value. -/
def needsARequestText (field : ScenarioField) : String × String :=
  ((needsARequest.find? fun row => row.1 = field).map Prod.snd).getD ("", "")

/-- The text of a refusal, where `repr` is the function of the language. -/
def RuleRefusal.text (repr : Value → String) : RuleRefusal → String
  | .pauseBeforeHeaders =>
      "pause_at 'before_headers' is not accepted: latency_ms already delays the first byte. Use " ++
        "latency_ms for the delay before the reply starts, and pause_at 'after_headers' or " ++
        "'mid_body' to hold a reply part way through"
  | .thenModePortClosed =>
      "then_mode 'port_closed' is not accepted: then_mode is what a provider switches to after " ++
        "fail_first_n requests have arrived, and port_closed is a state of the port, not an answer " ++
        "to a request. Set mode 'port_closed' in a later call when the port has to close"
  | .noWord field value allowed =>
      "invalid " ++ field ++ " " ++ repr value ++ "; allowed: " ++ repr (textList allowed)
  | .noProbability value => "error_probability must be a number in [0.0, 1.0], got " ++ repr value
  | .noCount field value => field ++ " must be a non-negative integer, got " ++ repr value
  | .noRate value => "per_second must be a non-negative number, got " ++ repr value
  | .responsesNoPair => "REST responses must be [[verb, template], cfg] pairs"
  | .responsesNoRouteKey => "REST response key must be [verb, template]"
  | .responsesError => "per-method mode='error' not allowed; use error_stub or error"
  | .responsesPortClosed method =>
      "per-method mode='port_closed' not allowed (method=" ++ repr method ++ "): an override " ++
        "answers one method of a request that already arrived, and a closed port receives none. " ++
        "Set mode 'port_closed' on the provider itself"
  | .responsesMode mode method =>
      "invalid mode " ++ repr mode ++ " for method " ++ repr method ++
        "; a per-method mode is one of " ++ repr (textList perMethodModes)
  | .responsesBodyNoObject method =>
      "per-method body override must be a dict (method=" ++ repr (.str method) ++ ")"
  | .responsesBodyWithMode method =>
      "per-method body and mode are mutually exclusive (method=" ++ repr (.str method) ++ ")"
  | .responsesBodyStatus statusKey method status =>
      "per-method body override " ++ statusKey ++ " must be an int from 200 to 299 or from 400 to " ++
        "599 (method=" ++ repr (.str method) ++ "), got " ++ repr status
  | .responsesShape => "responses must be an object (or a list of pairs for REST)"
  | .portsNotServed unknown served =>
      "ports " ++ repr (.list unknown) ++ " are not served by this provider; it serves " ++
        repr (portList (sortedPorts served)) ++ ". A filter that matches no endpoint applies no " ++
        "fault, so the provider would answer normally and the request would look like it had worked"
  | .pauseNoHttpPort pauseAt ports httpPorts =>
      "pause_at=" ++ repr pauseAt ++ " cannot apply with ports=" ++ repr (.list ports) ++
        ": a pause is performed only on the HTTP write path, and none of those ports is an http " ++
        "endpoint of this provider. Its http ports are " ++ repr (portList (sortedPorts httpPorts))
  | .chosenNoWriter field transports ports endpoints =>
      field.name ++ " cannot apply: " ++
        (if field = .replyTrailers then "only a gRPC endpoint ('http2') writes them"
          else "every endpoint writes them") ++
        ", and with transports=" ++ repr transports ++ " and ports=" ++ repr ports ++
        " this block targets none (the provider serves " ++ endpointsText endpoints ++
        "). They would be stored and would reach no reply"
  | .invalidJsonOnlyGrpc =>
      "corruption_mode 'invalid_json' cannot apply: it breaks the bytes of a JSON body, and this " ++
        "provider has only gRPC endpoints, whose replies are protobuf messages. The value would be " ++
        "stored and would corrupt no reply. Use 'invalid_proto' on a gRPC provider: it ends the " ++
        "call with the status UNKNOWN"
  | .invalidProtoNoGrpc =>
      "corruption_mode 'invalid_proto' cannot apply: it ends a gRPC call with the status UNKNOWN, " ++
        "and this provider has no gRPC endpoint. The value would be stored and would corrupt no " ++
        "reply. Use 'invalid_json' to break the bytes of a JSON body"
  | .graphqlField field endpoints =>
      field.name ++ " cannot apply: only the GraphQL listener reads it, and this provider has no " ++
        "GraphQL endpoint (it serves " ++ endpointsText endpoints ++
        "). The value would be stored and would change no reply"
  | .cannedBody method endpoints =>
      "responses[" ++ repr (.str method) ++ "] holds a canned body under a method name, and no " ++
        "endpoint of this provider serves one (it serves " ++ endpointsText endpoints ++
        "). A gRPC endpoint reads 'result', 'error' and 'error_stub', and never 'body', and a REST " ++
        "endpoint reads a [verb, template] pair. The body would be stored and would change no reply"
  | .portClosedTargetsNone transports ports endpoints =>
      "mode 'port_closed' targets no endpoint of this provider with transports=" ++
        repr transports ++ " and ports=" ++ repr ports ++ "; it serves " ++ endpointsText endpoints ++
        ". A fault that closes nothing leaves the provider answering normally and the request " ++
        "would look like it had worked"
  | .portClosedNoListener ports =>
      "mode 'port_closed' cannot close port(s) " ++ repr (portList (sortedPorts ports)) ++
        ": this simulator runs no listener there (the listeners were never started, or grpcio is " ++
        "not installed for a gRPC port), so there is no server to stop"
  | .portClosedWithRequestFault field value =>
      let (does, unset) := needsARequestText field
      field.name ++ "=" ++ repr value ++ " cannot apply with mode 'port_closed': " ++ field.name ++
        " " ++ does ++ ", and a closed port receives no request. port_closed is a state of the " ++
        "port, not a fault on a request. Set " ++ field.name ++ " back to " ++ unset ++
        ", or use a mode that answers"

/-- The result of a rule. -/
abbrev Ruled := Except (Raised RuleRefusal)

/-! ### The rules of one field -/

/-- `value in allowed`, for a set of texts: a member of a set has to be hashable. -/
def inWords (value : Value) (allowed : List String) : Ruled Bool :=
  if value.hashable then .ok (allowed.any fun word => value.eqText word)
  else .error (.raised .typeError)

/-- `_bad_enum`. -/
def badEnum (field : String) (value : Value) : Ruled Unit := do
  refuseIf (field = "pause_at" && value.eqText "before_headers") .pauseBeforeHeaders
  refuseIf (field = "then_mode" && value.eqText "port_closed") .thenModePortClosed
  match enums field with
  | some allowed =>
      if !value.isNone then do
        let known ← inWords value allowed
        refuseIf (!known) (.noWord field value allowed)
  | none => pure ()

/-- Is the value a number from 0.0 to 1.0, and no Boolean? -/
def isProbability : Value → Bool
  | .int value => 0 ≤ value && value ≤ 1
  | .float (.finite value) => 0 ≤ value && value ≤ 1
  | _ => false

/-- Is the value a number from 0 on, and no Boolean? -/
def isRate : Value → Bool
  | .int value => 0 ≤ value
  | .float (.finite value) => 0 ≤ value
  | .float .negInf => false
  | .float _ => true
  | _ => false

/-- `_bad_number`. -/
def badNumber (field : String) (value : Value) : Ruled Unit := do
  refuseIf (field = "error_probability" && !isProbability value) (.noProbability value)
  refuseIf (["latency_ms", "pause_ms", "fail_first_n", "blocks"].contains field && !isCount value)
    (.noCount field value)
  refuseIf (field = "per_second" && !isRate value) (.noRate value)

/-- The rules of a per-method `mode`, the same for each shape of `responses`. -/
def badMethodMode (method mode : Value) : Ruled Unit := do
  refuseIf (mode.eqText "error") .responsesError
  refuseIf (mode.eqText "port_closed") (.responsesPortClosed method)
  refuseIf (!(mode.isNone || perMethodModes.any fun word => mode.eqText word))
    (.responsesMode mode method)

/-- `cfg.get("mode")` for the members of an object. -/
def modeOf (cfg : List (Key × Value)) : Value := (Dict.get cfg (.text "mode")).getD .none

/-- A part of a tuple key. Numbers that are equal are one key. -/
def routePart (part : Value) : Ruled Scalar :=
  match part with
  | .none => .ok .none
  | .bool value => .ok (.int (if value then 1 else 0))
  | .int value => .ok (.int value)
  | .float (.finite value) => .ok (if value.den = 1 then .int value.num else .float (.finite value))
  | .float value => .ok (.float value)
  | .str value => .ok (.str value)
  | .list _ => .error (.raised .typeError)
  | .dict _ => .error (.raised .typeError)

/-- The loop over `[[verb, template], cfg]` pairs. -/
def normaliseRoutes : List Value → Dict Key Value → Ruled (Dict Key Value)
  | [], out => .ok out
  | .list [.list [verb, template], cfg] :: rest, out => do
      match cfg with
      | .dict entries => badMethodMode (.list [verb, template]) (modeOf entries)
      | _ => pure ()
      let first ← routePart verb
      let second ← routePart template
      normaliseRoutes rest (Dict.set out (.pair first second) cfg)
  | .list [_, _] :: _, _ => .error (.refused .responsesNoRouteKey)
  | _ :: _, _ => .error (.refused .responsesNoPair)

/-- Can the value be the status of a canned reply? -/
def isCannedStatus (value : Value) : Bool :=
  match value.asInt with
  | some status => (200 ≤ status && status ≤ 299) || (400 ≤ status && status ≤ 599)
  | none => false

/-- The status rule of a canned reply, for one of its two keys. -/
def badCannedStatus (method statusKey : String) (cfg : List (Key × Value)) : Ruled Unit :=
  let status := (Dict.get cfg (.text statusKey)).getD (.int 200)
  refuseIf (!isCannedStatus status) (.responsesBodyStatus statusKey method status)

/-- The rules of a canned `{status, body}` override. -/
def badCannedBody (method : String) (cfg : List (Key × Value)) : Ruled Unit :=
  match Dict.get cfg (.text "body") with
  | none => .ok ()
  | some body => do
      refuseIf (!body.isDict) (.responsesBodyNoObject method)
      refuseIf (Dict.has cfg (.text "mode")) (.responsesBodyWithMode method)
      badCannedStatus method "status" cfg
      badCannedStatus method "http_status" cfg

/-- The loop over `{method: cfg}`. -/
def normaliseMethods : List (Key × Value) → Ruled Unit
  | [] => .ok ()
  | (key, cfg) :: rest => do
      match cfg with
      | .dict entries => do
          badMethodMode (Value.ofKey key) (modeOf entries)
          match key with
          | .text method => badCannedBody method entries
          | .pair _ _ => pure ()
      | _ => pure ()
      normaliseMethods rest

/-- `_normalise_responses`. -/
def normaliseResponses : Value → Ruled Value
  | .list pairs => do
      let out ← normaliseRoutes pairs []
      pure (.dict out)
  | .dict entries => do
      normaliseMethods entries
      pure (.dict entries)
  | _ => .error (.refused .responsesShape)

/-! ### The rules of a block -/

section

variable (provider : Provider) (stored : Scenario) (updates : ScenarioUpdates)

/-- The ports that the provider serves. -/
def servedPorts : List ℕ := provider.endpoints.map Endpoint.port

/-- `_ports_the_provider_does_not_serve`. -/
def portsTheProviderDoesNotServe : Ruled Unit :=
  match updates.given .ports with
  | .list ports =>
      let unknown := ports.filter fun port => !(servedPorts provider).any fun served => port.eqInt served
      refuseIf (!unknown.isEmpty) (.portsNotServed unknown (servedPorts provider))
  | _ => .ok ()

/-- `_a_pause_no_named_port_can_serve`. -/
def aPauseNoNamedPortCanServe : Ruled Unit :=
  let effective := updates.over stored
  match effective .ports with
  | .list ports =>
      if (effective .pauseAt).truthy && !ports.isEmpty then
        let httpPorts :=
          ((provider.endpoints.filter fun endpoint => endpoint.transport = .http).map
            Endpoint.port).dedup
        if ports.all Value.hashable then
          refuseIf (!httpPorts.any fun port => ports.any fun named => named.eqInt port)
            (.pauseNoHttpPort (effective .pauseAt) ports httpPorts)
        else .error (.raised .typeError)
      else .ok ()
  | _ => .ok ()

/-- `_a_filter_scenario_config_refuses`. -/
def aFilterScenarioConfigRefuses (effective : Scenario) : Bool :=
  (!(effective .transports).isNone && !(effective .transports).isList) ||
    (!(effective .ports).isNone && !(effective .ports).isList) ||
    (!(effective .ports).isNone && !(effective .ports).truthy)

/-- The endpoints that a block targets. -/
def targetedEndpoints (effective : Scenario) : List Endpoint → Except PyError (List Endpoint)
  | [] => .ok []
  | endpoint :: rest => do
      let targeted ← targets effective endpoint
      let others ← targetedEndpoints effective rest
      pure (if targeted then endpoint :: others else others)

/-- Does an endpoint write the chosen field? `_WRITERS_OF_CHOSEN`. -/
def writesChosen (field : ScenarioField) (endpoint : Endpoint) : Bool :=
  field ≠ .replyTrailers || endpoint.transport = .http2

/-- Is there an endpoint that writes the chosen field and that the block targets? -/
def anyWriterTargeted (field : ScenarioField) (effective : Scenario) :
    List Endpoint → Except PyError Bool
  | [] => .ok false
  | endpoint :: rest =>
      if writesChosen field endpoint then do
        if ← targets effective endpoint then pure true
        else anyWriterTargeted field effective rest
      else anyWriterTargeted field effective rest

/-- `_chosen_metadata_no_endpoint_can_send`. -/
def chosenMetadataNoEndpointCanSend (field : ScenarioField) : Ruled Unit :=
  let effective := updates.over stored
  if (effective field).truthy && (effective field).isDict &&
      !aFilterScenarioConfigRefuses effective then do
    let sent ← lift (anyWriterTargeted field effective provider.endpoints)
    refuseIf (!sent)
      (.chosenNoWriter field (effective .transports) (effective .ports) provider.endpoints)
  else .ok ()

/-- `_an_invalid_json_no_endpoint_can_apply`. -/
def anInvalidJsonNoEndpointCanApply : Ruled Unit :=
  refuseIf ((updates.given .corruptionMode).eqText "invalid_json" && !provider.endpoints.isEmpty &&
    provider.endpoints.all fun endpoint => endpoint.interface = .grpc) .invalidJsonOnlyGrpc

/-- `_an_invalid_proto_no_endpoint_can_apply`. -/
def anInvalidProtoNoEndpointCanApply : Ruled Unit :=
  refuseIf ((updates.given .corruptionMode).eqText "invalid_proto" &&
    !provider.endpoints.any fun endpoint => endpoint.interface = .grpc) .invalidProtoNoGrpc

/-- Does the block give a GraphQL field another value than the one that it has when it is not set? -/
def setsGraphqlField (field : ScenarioField) : Bool :=
  updates.names field &&
    if field = .rateLimitStyle then !(updates.given field).eqText "status"
    else !(updates.given field).isNone

/-- `_a_graphql_field_no_endpoint_can_apply`. -/
def aGraphqlFieldNoEndpointCanApply : Ruled Unit :=
  if provider.endpoints.any fun endpoint => endpoint.interface = .graphql then .ok ()
  else do
    refuseIf (setsGraphqlField updates .rateLimitStyle)
      (.graphqlField .rateLimitStyle provider.endpoints)
    refuseIf (setsGraphqlField updates .errorBody) (.graphqlField .errorBody provider.endpoints)
    refuseIf (setsGraphqlField updates .unreadableReply)
      (.graphqlField .unreadableReply provider.endpoints)

/-- Is the item a canned body under a method name? -/
def isCannedBody (item : Key × Value) : Option String :=
  match item with
  | (.text method, .dict cfg) => if Dict.has cfg (.text "body") then some method else none
  | _ => none

/-- Does the interface serve a canned body by its method name? -/
def servesACannedBodyByMethodName (interface : Interface) : Bool :=
  interface = .jsonrpc || interface = .graphql || interface = .tendermintrpc

/-- `_a_canned_body_no_endpoint_can_serve`. -/
def aCannedBodyNoEndpointCanServe : Ruled Unit :=
  match updates.given .responses with
  | .dict responses =>
      if (provider.endpoints.any fun endpoint => endpoint.interface = .grpc) &&
          !provider.endpoints.any fun endpoint =>
            servesACannedBodyByMethodName endpoint.interface then
        match responses.findSome? isCannedBody with
        | some method => .error (.refused (.cannedBody method provider.endpoints))
        | none => .ok ()
      else .ok ()
  | _ => .ok ()

/-- Does a field of `_NEEDS_A_REQUEST` hold its unset value? -/
def isUnset (field : ScenarioField) (value : Value) : Bool :=
  if field = .corruptionMode || field = .pauseAt then value.isNone else value.eqInt 0

/-- The loop over `_NEEDS_A_REQUEST`. -/
def aRequestFaultWithPortClosed (effective : Scenario) : List ScenarioField → Ruled Unit
  | [] => .ok ()
  | field :: rest => do
      refuseIf (!isUnset field (effective field))
        (.portClosedWithRequestFault field (effective field))
      aRequestFaultWithPortClosed effective rest

/-- `_a_port_closed_that_cannot_happen`, where `gated` says which ports have a gate. -/
def aPortClosedThatCannotHappen (gated : ℕ → Bool) : Ruled Unit :=
  let effective := updates.over stored
  if (effective .mode).eqText "port_closed" && !aFilterScenarioConfigRefuses effective then do
    let targeted ← lift (targetedEndpoints effective provider.endpoints)
    refuseIf targeted.isEmpty
      (.portClosedTargetsNone (effective .transports) (effective .ports) provider.endpoints)
    let noListener := (targeted.map Endpoint.port).filter fun port => !gated port
    refuseIf (!noListener.isEmpty) (.portClosedNoListener noListener)
    aRequestFaultWithPortClosed effective (needsARequest.map Prod.fst)
  else .ok ()

/-- The rules of a block, in the order in which the control API asks them. -/
def blockRules (gated : ℕ → Bool) : Ruled Unit := do
  portsTheProviderDoesNotServe provider updates
  aPauseNoNamedPortCanServe provider stored updates
  chosenMetadataNoEndpointCanSend provider stored updates .replyHeaders
  chosenMetadataNoEndpointCanSend provider stored updates .replyTrailers
  anInvalidJsonNoEndpointCanApply provider updates
  anInvalidProtoNoEndpointCanApply provider updates
  aGraphqlFieldNoEndpointCanApply provider updates
  aCannedBodyNoEndpointCanServe provider updates
  aPortClosedThatCannotHappen provider stored updates gated

end

end ProviderSimulator.Control
