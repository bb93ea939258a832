/-
**The success path of the Lava chain.**

One Lava pool speaks REST, Tendermint RPC or gRPC, and each of the three has a head of its own. A REST
reply is the bare body, a Tendermint reply is a JSON-RPC envelope, and a gRPC reply is the data that the
listener makes a message of. An entry of `responses` is read only when it is an object, and the two HTTP
interfaces read its status under two names, in opposite order of precedence (`pickStatus`).
-/

import Mathlib.Tactic.Common
import ProviderSimulator.Chains.JsonRpc
import ProviderSimulator.Stubs.Lava

namespace ProviderSimulator.Chains.Lava

open ProviderSimulator.Lib ProviderSimulator.Python ProviderSimulator.Domain ProviderSimulator.Stubs

/-- `_to_int`. -/
def toInt (host : Host) (value : Value) (default : ℤ) : ℤ :=
  match value with
  | .int number => number
  | .str text => (host.parseInt 10 text).getD default
  | _ => default

/-- `_pick_status`: the status under the first name, or else under the second, if it is a whole number. -/
def pickStatus (cfg : List (Key × Value)) (primary secondary : String) (default : ℤ) : Value :=
  let found := ((Dict.get cfg (.text primary)).or (Dict.get cfg (.text secondary))).getD (.int default)
  match found with
  | .int status => .int status
  | _ => .int default

/-- The canned reply of an entry, if it asks for one: `onError` of its error, or `onBody` of its body. -/
def canned (stubs : Dict String Value) (cfg : List (Key × Value)) (onError onBody : Value → Content) :
    Except PyError (Option Content) := do
  let error ← overrideError stubs (.dict cfg)
  if !error.isNone then pure (some (onError error))
  else pure ((Dict.get cfg (.text "body")).map onBody)

section

variable (host : Host)

/-! ### REST -/

/-- `_first_value`. -/
def firstValue : Value → Value
  | .list (item :: _) => item
  | .list [] => .none
  | value => value

/-- `_echo_page_key`. -/
def echoPageKey (result query : Value) : Except PyError Value :=
  match result, query with
  | .dict entries, .dict asked =>
      match Dict.get entries (.text "pagination") with
      | some (.dict pagination) =>
          let cursor := firstValue ((Dict.get asked (.text "pagination.key")).getD .none)
          let key := if cursor.isNone then .none else .str (host.text cursor)
          (Value.dict entries).setItem "pagination"
            (.dict (Dict.set pagination (.text "inbound_key") key))
      | _ => .ok result
  | _, _ => .ok result

/-- The path of `block.header` and the one of `block.last_commit`, whose `height` a reply sets. -/
def headerPath : List String := ["block", "header"]

def lastCommitPath : List String := ["block", "last_commit"]

/-- `str(max(int(value) - 1, 0))`. -/
def heightBefore (value : Value) : Except PyError Value := do
  let height ← host.intOf value
  pure (.str (decimal (max (height - 1) 0)))

/-- Set the height of the last commit, and leave the reply as it is on an error that is caught. -/
def setLastCommit (caught : List PyError) (height result : Value) : Except PyError Value :=
  match (do result.setPath lastCommitPath "height" (← heightBefore host height) : Except PyError Value) with
  | .ok written => .ok written
  | .error error => if error ∈ caught then .ok result else .error error

/-- The reply of `/blocks/latest`. -/
def latestBlock (head : ℤ) (blocksBehind result : Value) : Except PyError Value := do
  if result.isDict then
    let shifted := host.text (← (← host.sub (.int head) blocksBehind).atLeastZero)
    let result ← result.setPath headerPath "height" (.str shifted)
    setLastCommit host [.keyError, .typeError, .valueError] (.str shifted) result
  else pure result

/-- The reply of `/blocks/{height}`. -/
def blockAt (pathParams result : Value) : Except PyError Value := do
  match ← pathParams.get "height" with
  | none => pure result
  | some requested =>
      if !requested.isNone && result.isDict then
        let result ← result.setPath headerPath "height" (.str (host.text requested))
        setLastCommit host [.typeError, .valueError] requested result
      else pure result

/-- The reply of `/balances/{address}`. -/
def balancesOf (pathParams result : Value) : Except PyError Value := do
  match ← pathParams.get "address" with
  | none => pure result
  | some requested =>
      if !requested.isNone && result.isDict then result.setItem "address" requested else pure result

/-- The route of a request, as the key of an override and of a stub. -/
def routeKey (request : Parsed) : Value × Value :=
  ((request.get "route_verb").orElse (request.getD "verb" (.str "GET")), request.get "template")

/-- `responses.get((route_verb, template))`. -/
def getRoute (responses : Value) (route : Value × Value) : Except PyError (Option Value) :=
  match responses with
  | .dict entries =>
      match route.1.asScalar, route.2.asScalar with
      | some verb, some template => .ok (Dict.get entries (.pair verb template))
      | _, _ => .error .typeError
  | _ => .error .attributeError

/-- `REST_METHOD_DEFAULTS.get((route_verb, template))`. -/
def restStub (route : Value × Value) : Option Value :=
  match route with
  | (.str verb, .str template) => restMethodDefaults.get (verb, template)
  | _ => none

/-- What a known route makes of its stub. -/
def restComputed (request : Parsed) (head : ℤ) (blocksBehind : Value) (route : Value × Value)
    (stub : Value) : Except PyError Value := do
  let pathParams := (request.get "path_params").orElse (.dict [])
  let result ←
    match route.2 with
    | .str "/cosmos/base/tendermint/v1beta1/blocks/latest" => latestBlock host head blocksBehind stub
    | .str "/cosmos/base/tendermint/v1beta1/blocks/\x7bheight\x7d" => blockAt host pathParams stub
    | .str "/cosmos/bank/v1beta1/balances/\x7baddress\x7d" => balancesOf pathParams stub
    | _ => pure stub
  echoPageKey host result ((request.get "query").orElse (.dict []))

/-- `_build_rest`. -/
def buildRest (request : Parsed) (scenario : Scenario) (head : ℤ) : Except PyError Content := do
  let route := routeKey request
  let responses := responsesOf scenario
  let methodCfg ← orDefault responses (← getRoute responses route)
  let reply ←
    match methodCfg with
    | .dict cfg =>
        canned restErrorStubs cfg
          (fun error => { status := pickStatus cfg "http_status" "status" 500, body := .object [("error", error)] })
          (fun body => { status := pickStatus cfg "http_status" "status" 200, body })
    | _ => pure none
  match reply with
  | some content => pure content
  | none =>
      match restStub route with
      | none =>
          pure {
            status := .int 404
            body := .object [
              ("code", .str "not_found"), ("method", request.getD "verb" (.str "GET")),
              ("path", (request.get "path").orElse route.2)] }
      | some stub =>
          let result ← restComputed host request head (scenario .blocksBehind) route stub
          pure { status := scenario .httpStatus, body := result }

/-! ### Tendermint RPC -/

/-- `max(head - blocks_behind, 0)`. -/
def effectiveHead (head : ℤ) (blocksBehind : Value) : Except PyError Value := do
  (← host.sub (.int head) blocksBehind).atLeastZero

/-- The reply of `block`. -/
def tmBlock (head : ℤ) (blocksBehind params : Value) : Except PyError Value := do
  let requested ← params.getD "height" .none
  let height ←
    if requested.isNone then effectiveHead host head blocksBehind
    else pure (.int (toInt host requested 0))
  let before ← (← host.sub height (.int 1)).atLeastZero
  pure (tmBlockResponse (host.text height) (host.text before))

/-- The reply of `validators`. -/
def tmValidators (head : ℤ) (blocksBehind params : Value) : Except PyError Value := do
  let requested ← params.getD "height" .none
  let height ←
    if requested.isNone then effectiveHead host head blocksBehind
    else pure (.int (toInt host requested head))
  let page := max (toInt host (← params.getD "page" .none) 1) 1
  let perPage := max (toInt host (← params.getD "per_page" .none) 30) 1
  pure (tmValidatorsResponse (host.text height) page perPage)

/-- The reply of `abci_query`. -/
def tmAbciQuery (params : Value) : Except PyError Value := do
  let requested ← params.getD "height" .none
  let height := if requested.isNone then 0 else toInt host requested 0
  pure (tmAbciQueryResponse (decimal height))

/-- Stamp a height into one member of a reply, where it has that member. -/
def stampHeight (part name : String) (height result : Value) : Value :=
  match result with
  | .dict entries =>
      match Dict.get entries (.text part) with
      | some (.dict inner) =>
          if Dict.has inner (.text name) then
            .dict (Dict.set entries (.text part) (.dict (Dict.set inner (.text name) height)))
          else result
      | _ => result
  | _ => result

/-- The result of a known method. -/
def tmResult (head : ℤ) (blocksBehind params : Value) (method : String) (stub : Value) :
    Except PyError Value :=
  match method with
  | "block" => tmBlock host head blocksBehind params
  | "validators" => tmValidators host head blocksBehind params
  | "abci_query" => tmAbciQuery host params
  | _ => do
      let height := Value.str (host.text (← effectiveHead host head blocksBehind))
      pure (stampHeight "response" "last_block_height" height
        (stampHeight "sync_info" "latest_block_height" height stub))

/-- `_build_tm`. -/
def buildTm (request : Parsed) (scenario : Scenario) (head : ℤ) : Except PyError Content := do
  let requestId := request.getD "id" (.int 1)
  let method := request.getD "method" (.str "unknown")
  let params := (request.get "params").orElse (.dict [])
  let methodCfg ← methodCfgOf (responsesOf scenario) method
  let reply ←
    match methodCfg with
    | .dict cfg =>
        let status := pickStatus cfg "status" "http_status" 200
        canned tendermintErrorStubs cfg
          (fun error => { status, body := errorEnvelope requestId error })
          (fun body => { status, body := resultEnvelope requestId body })
    | _ => pure none
  match reply with
  | some content => pure content
  | none =>
      let status := scenario .httpStatus
      match method, ← tableGet tendermintMethodDefaults method with
      | .str name, some stub =>
          let result ← tmResult host head (scenario .blocksBehind) params name stub
          pure { status, body := resultEnvelope requestId result }
      | _, _ =>
          let error := Value.object [
            ("code", .int (-32601)), ("message", .str ("Unknown method: " ++ host.text method))]
          pure { status, body := errorEnvelope requestId error }

/-! ### gRPC -/

/-- `LAVA_SIM_CHAIN_ID`. -/
def lavaSimChainId : String := "lava-sim"

/-- The reply of an entry of `responses`, if it asks for one: an error as data, or a result. -/
def grpcEntry (method : Value) (cfg : List (Key × Value)) : Except PyError (Option Value) := do
  match Dict.get cfg (.text "error_stub") with
  | some name =>
      let code := if name.isStr then name else .str ""
      let message := host.text ((Dict.get cfg (.text "message")).getD name)
      pure (some (.object [
        ("grpc_method", method), ("error", .object [("code", code), ("message", .str message)])]))
  | none =>
      match Dict.get cfg (.text "error") with
      | some error =>
          let code ← error.getD "code" (.str "")
          let message ← error.getD "message" (.str "override")
          pure (some (.object [
            ("grpc_method", method), ("error", .object [("code", code), ("message", message)])]))
      | none =>
          pure ((Dict.get cfg (.text "result")).map fun result =>
            .object [("grpc_method", method), ("result", result)])

/-- The data of a served method. -/
def grpcData (head : ℤ) (blocksBehind method : Value) : Except PyError Value := do
  if method.eqText "AllBalances" then
    pure (.object [
      ("grpc_method", method), ("balances", ← restBalancesResponse.item "balances")])
  else if method.eqText "GetLatestBlock" then
    pure (.object [
      ("grpc_method", method), ("height", ← effectiveHead host head blocksBehind),
      ("chain_id", .str lavaSimChainId)])
  else if method.eqText "GetNodeInfo" then
    pure (.object [
      ("grpc_method", method), ("network", .str lavaSimChainId),
      ("moniker", .str "lava-sim-grpc-provider"), ("version", .str "sim-1.0"),
      ("app_name", .str "lava-sim-app"), ("app_version", .str "sim-1.0")])
  else pure (.object [("grpc_method", method)])

/-- `_build_grpc`. -/
def buildGrpc (request : Parsed) (scenario : Scenario) (head : ℤ) : Except PyError Content := do
  let method := request.getD "method" (.str "unknown")
  let methodCfg ← methodCfgOf (responsesOf scenario) method
  let entry ←
    match methodCfg with
    | .dict cfg => grpcEntry host method cfg
    | _ => pure none
  match entry with
  | some body => pure { status := .int 200, body }
  | none => pure { status := .int 200, body := ← grpcData host head (scenario .blocksBehind) method }

/-! ### The chain -/

/-- `LavaChain.build_success`, where the head is the one of the interface. -/
def buildSuccess (request : Parsed) (scenario : Scenario) (head : ℤ) (interface : Interface) :
    Except PyError Content :=
  match interface with
  | .rest => buildRest host request scenario head
  | .tendermintrpc => buildTm host request scenario head
  | .grpc => buildGrpc host request scenario head
  | _ => .error .valueError

end

end ProviderSimulator.Chains.Lava
