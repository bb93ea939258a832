/-
**The success path of the JSON-RPC chains.**

A chain builds the reply of a request that gets no fault: Ethereum, Bitcoin, Lightning and Solana here. It
reads the parsed request, the scenario, the quirks and the position of its head, and it gives a status and
a body. The four chains share their first half: the entry of the method in `responses`, or else the one of
`default`, and an error that this entry asks for.

Nothing of a request or of an entry has a promised shape, so every step says what it raises.

A Lightning reply to `getinfo` is written into the object that holds the result. When that object is the
`result` of the `default` entry, it is the one of the stored scenario, since a snapshot copies one level
only. `Content.rewritten` is what the stored object then holds.
-/

import Mathlib.Tactic.Common
import ProviderSimulator.Domain.Provider
import ProviderSimulator.GraphqlDocument
import ProviderSimulator.Stubs.JsonRpc

namespace ProviderSimulator.Chains

open ProviderSimulator.Lib ProviderSimulator.Python ProviderSimulator.Domain ProviderSimulator.Stubs

/-- A parsed request. -/
structure Parsed where
  fields : Dict String Value
  /-- `parsed["graphql"]`. -/
  graphql : Option GraphqlDocument.Request := none
  /-- `parsed["message"]`: the fields of a gRPC request message. -/
  message : Option (Dict String Value) := none
  /-- `parsed["executed_at"]`, with the time of each run. -/
  executedAt : Dict String ℚ := []
  /-- `parsed["now"]`. -/
  now : ℚ := 0

namespace Parsed

variable (request : Parsed) (name : String)

/-- `request.get(name)`. -/
def get : Value := (request.fields.get name).getD .none

/-- `request.get(name, default)`. -/
def getD (default : Value) : Value := (request.fields.get name).getD default

end Parsed

/-- What a chain gives for a request. -/
structure Content where
  status : Value
  body : Value
  /-- `request["executed_now"]`. -/
  executedNow : List String := []
  /-- The `result` of the `default` entry of the stored scenario, if the chain wrote into it. -/
  rewritten : Option Value := none

/-! ### The entry of a method -/

/-- `scenario.get("responses") or {}`. -/
def responsesOf (scenario : Scenario) : Value := (scenario .responses).orElse (.dict [])

/-- `entry or responses.get("default", {})`. -/
def orDefault (responses : Value) (entry : Option Value) : Except PyError Value := do
  if (entry.getD .none).truthy then pure (entry.getD .none) else responses.getD "default" (.dict [])

/-- `responses.get(method) or responses.get("default", {})`. -/
def methodCfgOf (responses method : Value) : Except PyError Value := do
  orDefault responses (← responses.getKey method)

/-- `method in responses`. The map is a dictionary where this is asked. -/
def inResponses (responses method : Value) : Except PyError Bool := do
  pure (← responses.getKey method).isSome

/-- `TABLE.get(key)` of a table with text keys. -/
def tableGet (table : Dict String Value) (key : Value) : Except PyError (Option Value) :=
  match key with
  | .str name => .ok (table.get name)
  | other => if other.hashable then .ok none else .error .typeError

/-- `TABLE[key]`. -/
def tableItem (table : Dict String Value) (key : Value) : Except PyError Value := do
  match ← tableGet table key with
  | some value => pure value
  | none => .error .keyError

/-- The error that an entry asks for, by name or as it is, and null when it asks for none. -/
def overrideError (stubs : Dict String Value) (methodCfg : Value) : Except PyError Value := do
  if ← methodCfg.contains "error_stub" then tableItem stubs (← methodCfg.item "error_stub")
  else if ← methodCfg.contains "error" then methodCfg.item "error"
  else pure .none

/-! ### Envelopes -/

/-- A JSON-RPC reply with a result. -/
def resultEnvelope (requestId result : Value) : Value :=
  .object [("jsonrpc", .str "2.0"), ("id", requestId), ("result", result)]

/-- A JSON-RPC reply with an error. -/
def errorEnvelope (requestId error : Value) : Value :=
  .object [("jsonrpc", .str "2.0"), ("id", requestId), ("error", error)]

section

variable (host : Host)

/-! ### Ethereum -/

namespace Eth

/-- `_hex_upper`. -/
def hexUpper (number : Value) : Except PyError Value := do
  pure (.str ("0x" ++ (← formatUpperHex number)))

/-- `int(raw, 16) if raw.startswith("0x") else int(raw)`, or nothing where it raises. -/
def parseHeight (raw : String) : Option ℤ :=
  if "0x".toList.isPrefixOf raw.toList then host.parseInt 16 raw else host.parseInt 10 raw

/-- `_resolve_block_tag`. -/
def resolveBlockTag (params : Value) (key : String) (headInt : Value) : Except PyError (Option Value) := do
  if !params.truthy then pure none
  else
    match ← params.first with
    | .dict filter =>
        match (Dict.get filter (.text key)).getD (.str "latest") with
        | .str raw =>
            if raw ∈ ["latest", "safe", "finalized", "pending"] then pure (some headInt)
            else pure ((parseHeight host raw).map .int)
        | .int raw => pure (some (.int raw))
        | .bool raw => pure (some (.bool raw))
        | _ => pure none
    | _ => pure none

/-- `_parse_block_number`. -/
def parseBlockNumber : Value → Option ℤ
  | .int raw => some raw
  | .str raw => parseHeight host raw
  | _ => none

/-- `_entry_blocknum_le`. -/
def entryBlocknumLe (threshold : Value) (entry : Value) : Except PyError Bool :=
  match entry with
  | .dict entries =>
      match (Dict.get entries (.text "blockNumber")).getD .none with
      | .int raw => (Value.int raw).lessEq threshold
      | .bool raw => (Value.bool raw).lessEq threshold
      | .str raw =>
          match host.parseInt 16 raw with
          | some number => (Value.int number).lessEq threshold
          | none => .ok false
      | _ => .ok false
  | _ => .ok false

/-- The `number` of the block that the tag or the number names. -/
def namedNumber (effectiveHead wanted : Value) : Except PyError Value := do
  let latest ← hexUpper effectiveHead
  let pending ← hexUpper (← host.add effectiveHead (.int 1))
  let finalized ← hexUpper (← host.sub effectiveHead (.int 1))
  let named : Dict String Value :=
    [("latest", latest), ("earliest", .str "0x0"), ("pending", pending), ("safe", latest),
      ("finalized", finalized)]
  pure ((← tableGet named wanted).getD wanted)

/-- Is the block that the parameter names above the head? Only a provider whose `blocks_behind` is not
zero asks. -/
def aboveHead (blocksBehind effectiveHead params : Value) : Except PyError Bool := do
  if blocksBehind.eqInt 0 then pure false
  else
    match parseBlockNumber host (← params.first) with
    | some requested => effectiveHead.less (.int requested)
    | none => pure false

/-- The result of `eth_getBlockByNumber`. -/
def getBlockByNumber (head : ℤ) (blocksBehind params result : Value) : Except PyError Value := do
  let effectiveHead ← host.sub (.int head) blocksBehind
  let _ ← hexUpper effectiveHead
  if ← aboveHead host blocksBehind effectiveHead params then pure .none
  else result.setItem "number" (← namedNumber host effectiveHead (← params.first))

/-- The result of `eth_getLogs`. -/
def getLogs (head : ℤ) (blocksBehind params : Value) (quirks : Quirks) (result : Value) :
    Except PyError Value := do
  if (quirks .logsIndexedUpTo).isNone then pure result
  else
    let headInt ← host.sub (.int head) blocksBehind
    match ← resolveBlockTag host params "toBlock" headInt with
    | none => pure result
    | some toBlock =>
        if ← (quirks .logsIndexedUpTo).less toBlock then
          match result with
          | .list items =>
              if (quirks .logsLagMode).eqText "partial" then
                pure (.list (← items.filterM (entryBlocknumLe host (quirks .logsIndexedUpTo))))
              else pure (.list [])
          | _ => pure (.list [])
        else pure result

/-- `EthChain.build_success`. -/
def buildSuccess (request : Parsed) (scenario : Scenario) (quirks : Quirks) (head : ℤ) :
    Except PyError Content := do
  let requestId := request.getD "id" (.int 1)
  let method := request.getD "method" (.str "unknown")
  let params := request.getD "params" (.list [])
  let methodCfg ← methodCfgOf (responsesOf scenario) method
  let error ← overrideError ethErrorStubs methodCfg
  if !error.isNone then
    pure { status := ← methodCfg.getD "http_status" (.int 200), body := errorEnvelope requestId error }
  else
    let result ← methodCfg.getD "result" ((← tableGet ethMethodDefaults method).getD (.str "0x1"))
    let blocksBehind := scenario .blocksBehind
    let result ←
      if method.eqText "eth_blockNumber" && !(← methodCfg.contains "result") then do
        hexUpper (← host.sub (.int head) blocksBehind)
      else pure result
    let result ←
      if method.eqText "eth_getBlockByNumber" && result.isDict && params.truthy then
        getBlockByNumber host head blocksBehind params result
      else pure result
    let result ←
      if method.eqText "eth_getLogs" then getLogs host head blocksBehind params quirks result
      else pure result
    pure { status := scenario .httpStatus, body := resultEnvelope requestId result }

end Eth

/-! ### Bitcoin -/

namespace Btc

mutual

/-- `_restamp_head`, which calls itself for each value inside another one, where the interpreter has room
for so many calls. -/
def restampHead (effectiveHead : Value) : ℕ → Value → Except PyError Value
  | 0, _ => .error .recursionError
  | _ + 1, .int value => .ok (if value = btcLatestBlock then effectiveHead else .int value)
  | _ + 1, .str value =>
      if value = btcBlockHash btcLatestBlock then do pure (.str (← formatHex64 effectiveHead))
      else .ok (.str value)
  | frames + 1, .dict entries => do pure (.dict (← restampEntries effectiveHead frames entries))
  | frames + 1, .list items => do pure (.list (← restampItems effectiveHead frames items))
  | _ + 1, value => .ok value

/-- The items of a list. -/
def restampItems (effectiveHead : Value) : ℕ → List Value → Except PyError (List Value)
  | _, [] => .ok []
  | frames, item :: rest => do
      let first ← restampHead effectiveHead frames item
      pure (first :: (← restampItems effectiveHead frames rest))

/-- The values of a dictionary. -/
def restampEntries (effectiveHead : Value) :
    ℕ → List (Key × Value) → Except PyError (List (Key × Value))
  | _, [] => .ok []
  | frames, (key, value) :: rest => do
      let first ← restampHead effectiveHead frames value
      pure ((key, first) :: (← restampEntries effectiveHead frames rest))

end

/-- The result of an entry, or the stub of the method, or null. -/
def resultOf (defaults : Dict String Value) (methodCfg method : Value) : Except PyError Value := do
  if ← methodCfg.contains "result" then methodCfg.item "result"
  else pure ((← tableGet defaults method).getD .none)

/-- `getblock` and `getblockheader` echo the hash that they are asked for. -/
def echoHash (params result : Value) : Except PyError Value := do
  match ← params.first with
  | .str hash => result.setItem "hash" (.str hash)
  | _ => pure result

/-- The result of a method that has no entry of its own. `getblockhash` names its height, and any other
one reports the head. -/
def computed (effectiveHead params result method : Value) : Except PyError Value := do
  let result ←
    if method.eqText "getblockhash" && params.truthy then pure result
    else restampHead effectiveHead host.frames result
  if (method.eqText "getblock" || method.eqText "getblockheader") && params.truthy && result.isDict then
    echoHash params result
  else pure result

/-- `int(params[0])`. -/
def namedHeight (params : Value) : Except PyError ℤ := do
  let first ← params.first
  host.intOf first

/-- The hash of the height that `getblockhash` names, or nothing where the height is no number. -/
def namedHash (params : Value) : Except PyError (Option String) :=
  match namedHeight host params with
  | .ok height => .ok (some (btcBlockHash height))
  | .error .typeError => .ok none
  | .error .valueError => .ok none
  | .error error => .error error

/-- `BtcChain.build_success`. -/
def buildSuccess (request : Parsed) (scenario : Scenario) (head : ℤ) : Except PyError Content := do
  let requestId := request.getD "id" (.int 1)
  let method := request.getD "method" (.str "unknown")
  let params := request.getD "params" (.list [])
  let responses := responsesOf scenario
  let methodCfg ← methodCfgOf responses method
  let error ← overrideError btcErrorStubs methodCfg
  if !error.isNone then
    pure { status := ← methodCfg.getD "http_status" (.int 200), body := errorEnvelope requestId error }
  else
    let result ← resultOf btcMethodDefaults methodCfg method
    let effectiveHead ← host.sub (.int head) (scenario .blocksBehind)
    let status := scenario .httpStatus
    if ← inResponses responses method then
      pure { status, body := resultEnvelope requestId result }
    else
      let result ← computed host effectiveHead params result method
      if method.eqText "getblockhash" && params.truthy then
        match ← namedHash host params with
        | some hash => pure { status, body := resultEnvelope requestId (.str hash) }
        | none =>
            let error ← tableItem btcErrorStubs (.str "invalid_parameter")
            pure { status := .int 200, body := errorEnvelope requestId error }
      else pure { status, body := resultEnvelope requestId result }

end Btc

/-! ### Lightning -/

namespace Ln

/-- A reply that echoes the text that it is asked for under a name. -/
def echo (params result : Value) (name : String) : Except PyError Value := do
  match ← params.first with
  | .str text => if text = "" then pure result else result.setItem name (.str text)
  | _ => pure result

/-- The methods that echo their first parameter, and the name under which they do. -/
def echoed : Dict String String :=
  [("decodepayreq", "payment_request"), ("openchannel", "node_pubkey"), ("payinvoice", "payment_request")]

/-- The height and the sync flag of `getinfo`. -/
def synced (head : ℤ) (blocksBehind result : Value) : Except PyError Value := do
  let result ← result.setItem "block_height" (← host.sub (.int head) blocksBehind)
  if blocksBehind.eqInt 0 then pure result else result.setItem "synced_to_chain" (.bool false)

/-- The result of a method that has no entry of its own. -/
def computed (head : ℤ) (blocksBehind params result method : Value) : Except PyError Value := do
  let result ←
    if method.eqText "getinfo" && result.isDict then synced host head blocksBehind result
    else pure result
  match method with
  | .str name =>
      match echoed.get name with
      | some wanted => if params.truthy && result.isDict then echo params result wanted else pure result
      | none => pure result
  | _ => pure result

/-- `LnChain.build_success`, where the head is the one of Bitcoin. -/
def buildSuccess (request : Parsed) (scenario : Scenario) (head : ℤ) : Except PyError Content := do
  let requestId := request.getD "id" (.int 1)
  let method := request.getD "method" (.str "unknown")
  let params := request.getD "params" (.list [])
  let responses := responsesOf scenario
  let methodCfg ← methodCfgOf responses method
  let error ← overrideError lndErrorStubs methodCfg
  if !error.isNone then
    pure { status := ← methodCfg.getD "http_status" (.int 200), body := errorEnvelope requestId error }
  else
    let result ← Btc.resultOf lndMethodDefaults methodCfg method
    let status := scenario .httpStatus
    if ← inResponses responses method then
      pure { status, body := resultEnvelope requestId result }
    else
      let written ← computed host head (scenario .blocksBehind) params result method
      -- The object is the stored one when the entry of `default` gave the result.
      let inPlace := method.eqText "getinfo" && result.isDict && (← methodCfg.contains "result")
      pure {
        status, body := resultEnvelope requestId written
        rewritten := if inPlace then some written else none }

end Ln

/-! ### Solana -/

namespace Solana

/-- The result of a method that the chain computes. -/
def computed (slot : Value) (quirks : Quirks) (method : String) : Except PyError (Option Value) :=
  match method with
  | "getLatestBlockhash" => do
      let height ← host.sub slot (quirks .slotBlockGap)
      pure (some (.object [
        ("context", .object [("slot", slot)]),
        ("value", .object [("blockhash", .str solanaBlockhash), ("lastValidBlockHeight", height)])]))
  | "getSlot" => .ok (some slot)
  | "getHealth" => .ok (some (.str "ok"))
  | "getVersion" =>
      .ok (some (.object [
        ("solana-core", .str solanaCoreVersion), ("feature-set", .int solanaFeatureSet)]))
  | _ => .ok none

/-- `SolanaChain.build_success`. -/
def buildSuccess (request : Parsed) (scenario : Scenario) (quirks : Quirks) (head : ℤ) :
    Except PyError Content := do
  let requestId := request.getD "id" (.int 1)
  let method := request.getD "method" (.str "unknown")
  let methodCfg ← methodCfgOf (responsesOf scenario) method
  let status := scenario .httpStatus
  let error ← overrideError solanaErrorStubs methodCfg
  if !error.isNone then
    pure { status := ← methodCfg.getD "http_status" (.int 200), body := errorEnvelope requestId error }
  else if ← methodCfg.contains "result" then
    pure { status, body := resultEnvelope requestId (← methodCfg.item "result") }
  else
    let slot ← host.add (.int head) (quirks .slotOffset)
    let found ←
      match method with
      | .str name => computed host slot quirks name
      | _ => pure none
    match found with
    | some result => pure { status, body := resultEnvelope requestId result }
    | none =>
        if (quirks .unknownMethodMode).eqText "error" then
          let error ← tableItem solanaErrorStubs (.str "method_not_found")
          pure { status, body := errorEnvelope requestId error }
        else pure { status, body := resultEnvelope requestId .none }

end Solana

end

end ProviderSimulator.Chains
