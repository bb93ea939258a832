/-
**The listeners of the six interfaces.**

JSON-RPC over HTTP and over WebSocket, REST, Tendermint RPC, GraphQL and gRPC. Each one says how it parses
a request, how it shapes a fault and a success, and what its history row shows. A HEAD on a REST endpoint
is served as the GET of the same path, and its body is withheld.
-/

import Mathlib.Tactic.Common
import ProviderSimulator.Listeners.Base

namespace ProviderSimulator.Listeners

open ProviderSimulator.Lib ProviderSimulator.Python ProviderSimulator.Domain
open ProviderSimulator.FaultPolicy (Verdict targets)
open ProviderSimulator.Chains (Parsed errorEnvelope resultEnvelope)
open ProviderSimulator.GraphqlDocument (graphqlError errorReply)

/-- A reply with a JSON body. -/
def respond (status body : Value) : ServeResult := { action := .respond, status, body := .value body }

/-- The faults with no body. -/
def bodilessFault (verdict : Verdict) (otherwise : ServeResult) : ServeResult :=
  match verdict with
  | .hang => { action := .hang }
  | .drop dropAt => { action := .drop, dropAt }
  | _ => otherwise

/-- The status, the code and the message of a rate limit or of an error. -/
def faultTexts : Verdict → Value × Value × Value
  | .rateLimit _ _ => (.int 429, .int 429, .str "Too many requests")
  | .error status code message _ => (status, code, message)
  | _ => (.int 200, .int 0, .str "")

/-- The default `build_content`. -/
def buildContent (site : Site) (env : Env) (parsed : Parsed) (scenario : Scenario) (_ : RawRequest) :
    Serving (Value × Value) := do
  let content ← chainContent site env parsed scenario
  pure (content.status, content.body)

section

variable (site : Site) (env : Env)

/-! ### JSON-RPC -/

namespace JsonRpc

/-- The reply to a batch. -/
def batchReply : ServeResult :=
  respond (.int 200) (errorEnvelope .none (.object [
    ("code", .int (-32600)), ("message", .str "batch requests are not supported")]))

/-- `parse_request`. A body that is no JSON object is the empty request. -/
def parseRequest (request : RawRequest) : Except PyError Parse :=
  if request.body.isEmpty then .ok (.parsed { fields := [] })
  else
    match site.host.loads request.body with
    | .error .recursion => .error .recursionError
    | .error _ => .ok (.parsed { fields := [] })
    | .ok (.list _) => .ok (.direct batchReply "batch" .error)
    | .ok (.dict entries) => .ok (.parsed { fields := Value.members entries })
    | .ok _ => .ok (.parsed { fields := [] })

/-- `build_fault`. -/
def buildFault (verdict : Verdict) (request : Parsed) : ServeResult :=
  bodilessFault verdict <|
    match verdict with
    | .rateLimit body _ => respond (.int 429) body
    | _ =>
        let (status, code, message) := faultTexts verdict
        let requestId := request.get "id"
        let requestId := if requestId.isNone then .int 1 else requestId
        respond status (errorEnvelope requestId (.object [("code", code), ("message", message)]))

/-- `JsonRpcListener`. -/
def hooks : Hooks where
  bodyForHistory _ := none
  pathForHistory _ := none
  parseRequest request := Flow.ofExcept (parseRequest site request)
  buildDown := buildDown
  buildFault verdict request := .ok (buildFault verdict request)
  buildContent := buildContent site env
  buildSuccess status body := .ok (buildSuccess status body)
  buildBodyOverride := bodyOverride
  corrupt := corrupt
  methodKey := methodKey
  successLabel _ body _ := .ok (successLabel body)
  requestMethod request := request.getD "method" (.str "unknown")
  requestId request := request.get "id"
  responseId := responseId

end JsonRpc

/-! ### WebSocket -/

namespace Ws

/-- `SUBSCRIBE_METHODS`. -/
def subscribeMethods : List String := ["eth_subscribe", "subscribe", "accountSubscribe", "logsSubscribe"]

/-- `UNSUBSCRIBE_METHODS`. -/
def unsubscribeMethods : List String :=
  ["eth_unsubscribe", "unsubscribe", "accountUnsubscribe", "logsUnsubscribe"]

/-- The reply to a subscribe frame. -/
def subscribe (parsed : Parsed) (method : String) : Serving (Value × Value) := do
  Flow.leave (.register env.token method)
  pure (.int 200, resultEnvelope (parsed.get "id") (.str env.token))

/-- The first parameter of an unsubscribe frame, or null. -/
def unsubscribeTarget (parsed : Parsed) : Except PyError Value := do
  let params := (parsed.get "params").orElse (.list [])
  if params.truthy then params.first else pure .none

/-- Is the target one of the ids that the connection owns? -/
def owned (owns : List String) (target : Value) : Except PyError (Option String) :=
  match target with
  | .str id => .ok (if id ≠ "" ∧ id ∈ owns then some id else none)
  | other => if other.truthy && !other.hashable then .error .typeError else .ok none

/-- The reply to an unsubscribe frame: a connection removes only a subscription that it owns. -/
def unsubscribe (parsed : Parsed) (owns : List String) : Serving (Value × Value) := do
  let target ← Flow.ofExcept (unsubscribeTarget parsed)
  let owned ← Flow.ofExcept (owned owns target)
  Flow.leaveAll (owned.toList.map .unregister)
  let removed := owned.isSome && env.unregistered
  pure (.int 200, resultEnvelope (parsed.get "id") (.bool removed))

/-- `build_content`. -/
def buildContent (parsed : Parsed) (scenario : Scenario) (request : RawRequest) :
    Serving (Value × Value) :=
  match parsed.get "method", request.connection with
  | .str method, some owns =>
      if method ∈ subscribeMethods then subscribe env parsed method
      else if method ∈ unsubscribeMethods then unsubscribe env parsed owns
      else Listeners.buildContent site env parsed scenario request
  | .str method, none =>
      if method ∈ subscribeMethods ∨ method ∈ unsubscribeMethods then .raised .valueError
      else Listeners.buildContent site env parsed scenario request
  | method, _ =>
      if method.hashable then Listeners.buildContent site env parsed scenario request
      else .raised .typeError

/-- `JsonRpcWsListener`. -/
def hooks : Hooks := { JsonRpc.hooks site env with buildContent := buildContent site env }

end Ws

/-! ### REST -/

namespace Rest

/-- A compiled route: what stands before its path parameter, and the name of that parameter. -/
structure Route where
  verb : String
  template : String
  literal : List Char
  param : Option String

/-- `_compile_route`. A template has at most one parameter, and it is the last segment. -/
def compileRoute (verb template : String) : Route where
  verb := verb
  template := template
  literal := template.toList.takeWhile fun char => char ≠ '\x7b'
  param :=
    match template.toList.dropWhile fun char => char ≠ '\x7b' with
    | _ :: rest => some (String.ofList (rest.takeWhile fun char => char ≠ '\x7d'))
    | [] => none

/-- `_REST_ROUTES`. -/
def routes : List Route := Stubs.restMethodDefaults.map fun row => compileRoute row.1.1 row.1.2

/-- What may follow a route: one slash, and the line break that `$` lets through. -/
def isTail (rest : List Char) : Bool :=
  rest ∈ [[], ['/'], ['\n'], ['/', '\n']]

/-- `regex.match(path)`: the path parameters of a match. -/
def Route.match? (route : Route) (path : List Char) : Option (Dict String Value) :=
  if route.literal.isPrefixOf path then
    let rest := path.drop route.literal.length
    match route.param with
    | none => if isTail rest then some [] else none
    | some name =>
        let segment := rest.takeWhile fun char => char ≠ '/'
        if !segment.isEmpty && isTail (rest.dropWhile fun char => char ≠ '/') then
          some [(name, .str (String.ofList segment))]
        else none
  else none

/-- The first route of the verb that matches the path. -/
def findRoute (routeVerb path : String) : Option (String × Dict String Value) :=
  (routes.filter fun route => route.verb = routeVerb).findSome? fun route =>
    (route.match? path.toList).map fun params => (route.template, params)

/-- `_ROUTE_VERB.get(verb, verb)`. -/
def routeVerb (verb : String) : String := if verb = "HEAD" then "GET" else verb

/-- The request id of the query, if it is there. -/
def queryRequestId (query : Value) : Except PyError (Option String) := do
  let value ← (query.orElse (.dict [])).getD "request_id" .none
  let value := Chains.Lava.firstValue value
  pure (if value.truthy then some (site.host.text value) else none)

/-- `_caller_request_id`. -/
def callerRequestId (request : RawRequest) : Except PyError (Option String) := do
  match ← queryRequestId site request.query with
  | some id => pure (some id)
  | none =>
      pure ((request.headers.find? fun header =>
        header.1.toLower = "x-request-id" && header.2 ≠ "").map Prod.snd)

/-- The JSON value of a body, and null where it has none. -/
def bodyOf (body : Bytes) : Except PyError Value :=
  if body.isEmpty then .ok .none
  else
    match site.host.loads body with
    | .ok value => .ok value
    | .error .recursion => .error .recursionError
    | .error _ => .ok .none

/-- `parse_request`. -/
def parseRequest (request : RawRequest) : Except PyError Parse := do
  let verb := request.verb.toUpper
  let requestId := match ← callerRequestId site request with
    | some id => Value.str id
    | none => .int env.nextId
  let route := findRoute (routeVerb verb) request.path
  let template := match route with
    | some (template, _) => Value.str template
    | none => .none
  let params := match route with
    | some (_, params) => params
    | none => []
  let body ← bodyOf site request.body
  pure (.parsed { fields := [
    ("verb", .str verb), ("route_verb", .str (routeVerb verb)), ("template", template),
    ("path", .str request.path), ("path_params", .object params), ("query", request.query),
    ("body", body), ("request_id", requestId)] })

/-- `build_fault`. -/
def buildFault (verdict : Verdict) : ServeResult :=
  bodilessFault verdict <|
    let (status, code, message) := faultTexts verdict
    respond status (.object [("code", code), ("message", message)])

/-- `method_key`: the route, if there is one. -/
def methodKey (request : Parsed) : Option MethodKey :=
  let template := request.get "template"
  if template.truthy then
    some (.route ((request.get "route_verb").orElse (request.get "verb")) template)
  else none

/-- `success_label`. -/
def successLabel (status body : Value) (request : Parsed) : Except PyError Label := do
  if status.eqInt 404 && !(request.get "template").truthy then pure .notFound
  else if !(← isSuccess status) then pure .error
  else pure (Listeners.successLabel body)

/-- `request_method`. -/
def requestMethod (request : Parsed) : Value :=
  let template := request.get "template"
  let shown := if template.truthy then template else request.getD "path" (.str "")
  .str (site.host.text (request.getD "verb" (.str "*")) ++ " " ++ site.host.text shown)

/-- The hooks of `RestListener`. -/
def hooks : Hooks where
  bodyForHistory request :=
    if request.verb.toUpper = "GET" ∨ request.verb.toUpper = "HEAD" then none else some request.body
  pathForHistory _ := none
  parseRequest request := Flow.ofExcept (parseRequest site env request)
  buildDown := buildDown
  buildFault verdict _ := .ok (buildFault verdict)
  buildContent := buildContent site env
  buildSuccess status body := .ok (buildSuccess status body)
  buildBodyOverride _ := none
  corrupt := corrupt
  methodKey := methodKey
  successLabel := successLabel
  requestMethod := requestMethod site
  requestId request := request.get "request_id"
  responseId _ := .none

/-- A HEAD gets the plan of the GET without the bytes. -/
def withholdBody (request : RawRequest) (result : ServeResult) : ServeResult :=
  if request.verb.toUpper = "HEAD" ∧ result.action = .respond then { result with suppressBody := true }
  else result

end Rest

/-! ### Tendermint RPC -/

namespace Tendermint

/-- One parameter: a list gives its first item, and a text that is a JSON literal is read. -/
def normalizeParam (value : Value) : Except PyError Value :=
  let value := match value with
    | .list (item :: _) => item
    | .list [] => .str ""
    | other => other
  match value with
  | .str text =>
      match site.host.loadsText text with
      | .ok read => .ok read
      | .error .recursion => .error .recursionError
      | .error _ => .ok (.str text)
  | other => .ok other

/-- `_normalize_params`. -/
def normalizeParams : Value → Except PyError Value
  | .dict entries => do
      pure (.dict (← entries.mapM fun entry => do pure (entry.1, ← normalizeParam site entry.2)))
  | _ => .ok (.dict [])

/-- `path.strip("/")`. -/
def stripSlashes (path : String) : String :=
  let isSlash := fun char : Char => char = '/'
  String.ofList ((path.toList.dropWhile isSlash).reverse.dropWhile isSlash).reverse

/-- A request with its method, its parameters and its id. -/
def parsedCall (method : String) (params requestId : Value) : Except PyError Parse := do
  let params ← normalizeParams site params
  pure (.parsed { fields := [("method", .str method), ("params", params), ("id", requestId)] })

/-- The GET form. -/
def parseGet (request : RawRequest) : Except PyError Parse :=
  let method := stripSlashes request.path
  if method = "" then .ok (.parseError "GET URI has no method (empty path)")
  else parsedCall site method request.query (.int env.nextId)

/-- The POST form. -/
def parsePost (request : RawRequest) : Except PyError Parse :=
  if request.body.isEmpty then .ok (.parseError "POST body is empty")
  else
    match site.host.loads request.body with
    | .error .recursion => .error .recursionError
    | .error error =>
        .ok (.parseError ("POST body not valid JSON: " ++ site.host.jsonErrorText error))
    | .ok (.dict entries) =>
        match Dict.get entries (.text "method") with
        | some (.str method) =>
            if method = "" then .ok (.parseError "POST body missing 'method' field")
            else
              parsedCall site method ((Dict.get entries (.text "params")).getD .none)
                ((Dict.get entries (.text "id")).getD .none)
        | _ => .ok (.parseError "POST body missing 'method' field")
    | .ok other => .ok (.parseError ("POST body not a JSON object: " ++ other.typeName))

/-- `build_fault`. -/
def buildFault (verdict : Verdict) (request : Parsed) : ServeResult :=
  bodilessFault verdict <|
    let (status, code, message) := faultTexts verdict
    respond status (errorEnvelope (request.get "id") (.object [("code", code), ("message", message)]))

/-- `success_label`. -/
def successLabel (status body : Value) : Except PyError Label := do
  if !(← isSuccess status) then pure .error else pure (Listeners.successLabel body)

/-- `TendermintListener`. -/
def hooks : Hooks where
  bodyForHistory _ := none
  pathForHistory _ := none
  parseRequest request :=
    Flow.ofExcept (if request.verb.toUpper = "GET" then parseGet site env request else parsePost site request)
  buildDown := buildDown
  buildFault verdict request := .ok (buildFault verdict request)
  buildContent := buildContent site env
  buildSuccess status body := .ok (buildSuccess status body)
  buildBodyOverride _ := none
  corrupt := corrupt
  methodKey := methodKey
  successLabel status body _ := successLabel status body
  requestMethod request := request.getD "method" (.str "*")
  requestId request := request.get "id"
  responseId := responseId

end Tendermint

/-! ### GraphQL -/

namespace Graphql

/-- The `unreadable_reply` of a scenario that targets the endpoint, if it has one. -/
def unreadableReply (scenario : Scenario) : Except PyError (Option ServeResult) := do
  let chosen := scenario .unreadableReply
  if chosen.isNone then pure none
  else if ← targets scenario site.endpoint then
    pure (some (respond (← chosen.item "status") (← chosen.getD "body" (.str ""))))
  else pure none

/-- `_reply_to_an_unreadable_body`, which takes a snapshot of its own. -/
def replyToAnUnreadableBody (kind : GraphqlDocument.Kind) (message : String) : Serving ServeResult := do
  let scenario ← Flow.snapshot
  match ← Flow.ofExcept (unreadableReply site scenario) with
  | some result => pure result
  | none =>
      let (status, body) := GraphqlDocument.defaultErrorReply kind message
      pure (respond status body)

/-- `parse_request`. -/
def parseRequest (request : RawRequest) : Serving Parse :=
  match GraphqlDocument.parseGraphqlRequest site.host site.reader request.body with
  | .error (.raised error) => .raised error
  | .error (.fault kind message) => do
      let result ← replyToAnUnreadableBody site kind message
      pure (.direct result "unknown" .error)
  | .ok graphql =>
      pure (.parsed {
        fields := [("method", .str graphql.method), ("request_id", graphql.requestId)]
        graphql := some graphql })

/-- `build_fault`. -/
def buildFault (verdict : Verdict) : ServeResult :=
  bodilessFault verdict <|
    match verdict with
    | .rateLimit body style =>
        if style.eqText "body" then
          respond (.int 200) (errorReply (graphqlError body "RESOURCE_EXHAUSTED"))
        else respond (.int 429) body
    | .error status code message body =>
        if !body.isNone then respond status body
        else
          let code := match code with
            | .str text => text
            | _ => "INTERNAL_SERVER_ERROR"
          respond status (errorReply (graphqlError message code))
    | _ => respond (.int 200) .none

/-- `build_content`: the chain is given the memory of the provider, which keeps what it executed. -/
def buildContent (parsed : Parsed) (scenario : Scenario) : Serving (Value × Value) := do
  let content ← chainContent site env { parsed with executedAt := env.executed, now := env.now } scenario
  Flow.leaveAll (content.executedNow.map fun digest => .rememberExecuted digest env.now)
  pure (content.status, content.body)

/-- `success_label`. -/
def successLabel (status body : Value) : Except PyError Label := do
  if !(← isSuccess status) then pure .error
  else
    match body with
    | .dict entries =>
        pure (if ((Dict.get entries (.text "errors")).getD .none).truthy then .error else .success)
    | _ => pure .success

/-- `GraphQLListener`. -/
def hooks : Hooks where
  bodyForHistory request := some request.body
  pathForHistory request := some request.path
  parseRequest := parseRequest site
  buildDown := buildDown
  buildFault verdict _ := .ok (buildFault verdict)
  buildContent parsed scenario _ := buildContent site env parsed scenario
  buildSuccess status body := .ok (buildSuccess status body)
  buildBodyOverride := bodyOverride
  corrupt := corrupt
  methodKey := methodKey
  successLabel status body _ := successLabel status body
  requestMethod request := request.getD "method" (.str "*")
  requestId request := request.get "request_id"
  responseId := responseId

end Graphql

/-! ### gRPC -/

namespace Grpc

/-- The gRPC statuses, by number. -/
def statuses : List String :=
  ["OK", "CANCELLED", "UNKNOWN", "INVALID_ARGUMENT", "DEADLINE_EXCEEDED", "NOT_FOUND", "ALREADY_EXISTS",
    "PERMISSION_DENIED", "RESOURCE_EXHAUSTED", "FAILED_PRECONDITION", "ABORTED", "OUT_OF_RANGE",
    "UNIMPLEMENTED", "INTERNAL", "UNAVAILABLE", "DATA_LOSS", "UNAUTHENTICATED"]

/-- `_STATUS_BY_NAME.get(name)`. -/
def statusByName (name : Value) : Except PyError (Option String) :=
  match name with
  | .str text => .ok (if text ∈ statuses then some text else none)
  | other => if other.hashable then .ok none else .error .typeError

/-- `_STATUS_BY_VALUE.get(number)`. -/
def statusByValue (number : Value) : Except PyError (Option String) :=
  if number.hashable then
    .ok ((statuses.zipIdx.find? fun status => number.eqInt status.2).map Prod.fst)
  else .error .typeError

/-- `_status_name`. -/
def statusName (message code : Value) : Except PyError String := do
  match ← statusByName message with
  | some name => pure name
  | none => pure ((← statusByValue code).getD "UNKNOWN")

/-- `_status_of`. -/
def statusOf (code : Value) : Except PyError String := do
  match ← statusByName (if code.isStr then code else .str "") with
  | some name => pure name
  | none => pure ((← statusByValue (if code.isInt then code else .int (-1))).getD "UNKNOWN")

/-- A reply that is a status. -/
def statusReply (code : String) (text : Value) : ServeResult :=
  { action := .respond, body := .grpcStatus code text }

/-- `build_fault`. -/
def buildFault (verdict : Verdict) : Except PyError ServeResult :=
  match verdict with
  | .hang => .ok { action := .hang, body := .grpcStatus "CANCELLED" (.str "hang timeout") }
  | .drop dropAt =>
      .ok { action := .drop, dropAt, body := .grpcStatus "UNAVAILABLE" (.str "connection dropped") }
  | .rateLimit _ _ => .ok (statusReply "RESOURCE_EXHAUSTED" (.str "Too many requests"))
  | .error _ code message _ => do pure (statusReply (← statusName message code) message)
  | _ => .ok (statusReply "UNKNOWN" (.str ""))

/-- `build_success`: an error of the chain is a status, and any other data is a message. -/
def buildSuccess (body : Value) : Except PyError ServeResult := do
  let data := if body.isDict then body else .dict []
  let error ← data.getD "error" .none
  if !error.isNone then
    let code ← statusOf (← error.getD "code" .none)
    pure (statusReply code (← error.getD "message" .none))
  else
    let method := site.host.text (← data.getD "grpc_method" (.str ""))
    pure { action := .respond, body := .grpcReply method data }

/-- The corruptions that are the status `UNKNOWN`. -/
def unknownCorruptions : List String := ["invalid_proto", "empty_response", "truncated", "null_body"]

/-- `corrupt`: a corruption acts on a reply message only. -/
def corrupt (result : ServeResult) (label : Label) (scenario : Scenario) : ServeResult × Label :=
  match result.body with
  | .grpcReply _ _ =>
      let corruption := scenario .corruptionMode
      if corruption.eqText "wrong_type" then
        let field := (scenario .missingField).orElse (.str "response")
        let text := "wrong_type corruption on " ++ site.host.text field
        ({ result with body := .grpcStatus "INTERNAL" (.str text) }, .error)
      else if unknownCorruptions.any corruption.eqText then
        let text := "corruption: " ++ site.host.text corruption
        ({ result with body := .grpcStatus "UNKNOWN" (.str text) }, .error)
      else if corruption.eqText "missing_field" then
        ({ result with
          corruptionMode := .str "missing_field", missingField := scenario .missingField }, label)
      else (result, label)
  | _ => (result, label)

/-- `_REQUEST_ID_FIELD.get(method)`. -/
def requestIdField (method : Value) : Option String :=
  if method.eqText "AllBalances" then some "address" else none

/-- `request_id`. -/
def requestId (request : Parsed) : Value :=
  match requestIdField (request.getD "method" (.str "")), request.message with
  | some field, some message =>
      let value := (message.get field).getD .none
      if value.truthy then .str (site.host.text value) else .none
  | _, _ => .none

/-- `GrpcListener`. -/
def hooks : Hooks where
  bodyForHistory _ := none
  pathForHistory _ := none
  parseRequest request :=
    pure (.parsed { fields := [("method", .str request.path)], message := request.message })
  buildDown := statusReply "UNAVAILABLE" (.str "provider down")
  buildFault verdict _ := buildFault verdict
  buildContent := buildContent site env
  buildSuccess _ body := buildSuccess site body
  buildBodyOverride _ := none
  corrupt := corrupt site
  methodKey := methodKey
  successLabel _ body _ := .ok (successLabel body)
  requestMethod request := request.getD "method" (.str "*")
  requestId := requestId site
  responseId _ := .none

end Grpc

/-! ### The listener of an endpoint -/

/-- The listener that the simulator starts for an endpoint. -/
def hooks : Hooks :=
  match site.endpoint.interface, site.endpoint.transport with
  | .jsonrpc, .ws => Ws.hooks site env
  | .jsonrpc, _ => JsonRpc.hooks site env
  | .rest, _ => Rest.hooks site env
  | .tendermintrpc, _ => Tendermint.hooks site env
  | .graphql, _ => Graphql.hooks site env
  | .grpc, _ => Grpc.hooks site env

/-- `serve` of the listener of an endpoint. -/
def serveAt (request : RawRequest) (arrived : Bool) : Serving ServeResult := do
  let result ← serve site (hooks site env) env request arrived
  if site.endpoint.interface = .rest then pure (Rest.withholdBody request result) else pure result

end

end ProviderSimulator.Listeners
