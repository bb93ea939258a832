/-
**The success path, stage by stage.**

The four JSON-RPC chains share their first half (`front`): the entry of the method, and the error that it
asks for. What follows is the chain's own (`rest`). An Ethereum reply goes through three stages there that
each rewrite the result of one method.

`buildSuccess_eq` writes each chain in these terms, so that a fact about the four chains is put together
from one about `front` and one about each stage.
-/

import Mathlib.Tactic.Common
import ProviderSimulator.Chains.Sui

namespace ProviderSimulator.Chains

open ProviderSimulator.Lib ProviderSimulator.Python ProviderSimulator.Domain ProviderSimulator.Stubs

/-- Two branches that go on alike. -/
theorem branch_bind {E S T : Type} (taken : Prop) [Decidable taken] (first second : Except E S)
    (next : S → Except E T) :
    (if taken then first >>= next else second >>= next) = (if taken then first else second) >>= next := by
  split <;> rfl

/-- The first half of a reply: the entry of the method, and the error that it asks for. -/
def front (stubs : Dict String Value) (responses method requestId : Value)
    (rest : Value → Except PyError Content) : Except PyError Content := do
  let methodCfg ← methodCfgOf responses method
  let error ← overrideError stubs methodCfg
  if !error.isNone then
    pure { status := ← methodCfg.getD "http_status" (.int 200), body := errorEnvelope requestId error }
  else rest methodCfg

/-- A reply that is no error of the entry is the one of the chain. -/
theorem front_eq_ok {stubs : Dict String Value} {responses method requestId : Value}
    {rest : Value → Except PyError Content} {content : Content}
    (gave : front stubs responses method requestId rest = .ok content) :
    content.rewritten = none ∨ ∃ methodCfg, rest methodCfg = .ok content := by
  unfold front at gave
  obtain ⟨methodCfg, -, gave⟩ := ok_of_bind gave
  obtain ⟨error, -, gave⟩ := ok_of_bind gave
  split at gave
  · obtain ⟨status, -, gave⟩ := ok_of_bind gave
    cases gave
    exact .inl rfl
  · exact .inr ⟨methodCfg, gave⟩

section

variable (host : Host) (request : Parsed) (scenario : Scenario) (quirks : Quirks) (head : ℤ)

namespace Eth

/-- The result of `eth_blockNumber`, unless its entry has one. -/
def numberStage (blocksBehind method : Value) (given : Bool) (result : Value) : Except PyError Value :=
  if method.eqText "eth_blockNumber" && !given then do
    hexUpper (← host.sub (.int head) blocksBehind)
  else pure result

/-- The result of `eth_getBlockByNumber`. -/
def blockStage (blocksBehind method params result : Value) : Except PyError Value :=
  if method.eqText "eth_getBlockByNumber" && result.isDict && params.truthy then
    getBlockByNumber host head blocksBehind params result
  else pure result

/-- The result of `eth_getLogs`. -/
def logsStage (blocksBehind method params result : Value) : Except PyError Value :=
  if method.eqText "eth_getLogs" then getLogs host head blocksBehind params quirks result
  else pure result

/-- The result of a request whose entry asks for no error. -/
def resultStage (blocksBehind method params methodCfg : Value) : Except PyError Value := do
  let result ← methodCfg.getD "result" ((← tableGet ethMethodDefaults method).getD (.str "0x1"))
  let given ← methodCfg.contains "result"
  let result ← numberStage host head blocksBehind method given result
  let result ← blockStage host head blocksBehind method params result
  logsStage host quirks head blocksBehind method params result

/-- The reply of the chain. -/
def rest (methodCfg : Value) : Except PyError Content := do
  let result ← resultStage host quirks head (scenario .blocksBehind)
    (request.getD "method" (.str "unknown")) (request.getD "params" (.list [])) methodCfg
  pure { status := scenario .httpStatus, body := resultEnvelope (request.getD "id" (.int 1)) result }

theorem buildSuccess_eq :
    buildSuccess host request scenario quirks head =
      front ethErrorStubs (responsesOf scenario) (request.getD "method" (.str "unknown"))
        (request.getD "id" (.int 1)) (rest host request scenario quirks head) := by
  unfold buildSuccess front
  refine congrArg _ (funext fun methodCfg => congrArg _ (funext fun error => ?_))
  split
  · rfl
  · unfold rest resultStage numberStage blockStage logsStage
    simp only [branch_bind, bind_assoc]
    refine congrArg _ (funext fun stub => congrArg _ (funext fun result => congrArg _ (funext fun given => ?_)))
    split
    · rw [bind_assoc]
    · rfl

end Eth

namespace Btc

/-- The reply of the chain. -/
def rest (methodCfg : Value) : Except PyError Content := do
  let requestId := request.getD "id" (.int 1)
  let method := request.getD "method" (.str "unknown")
  let params := request.getD "params" (.list [])
  let result ← resultOf btcMethodDefaults methodCfg method
  let effectiveHead ← host.sub (.int head) (scenario .blocksBehind)
  let status := scenario .httpStatus
  if ← inResponses (responsesOf scenario) method then
    pure { status, body := resultEnvelope requestId result }
  else
    let result ← computed host effectiveHead params result method
    if method.eqText "getblockhash" && params.truthy then
      match ← namedHash host params with
      | some hash => pure { status, body := resultEnvelope requestId (.str hash) }
      | none =>
          let error ← tableItem btcErrorStubs (.str "invalid_parameter")
          pure { status := .int 200, body := errorEnvelope requestId error }
    else pure { status, body := resultEnvelope requestId result }

theorem buildSuccess_eq :
    buildSuccess host request scenario head =
      front btcErrorStubs (responsesOf scenario) (request.getD "method" (.str "unknown"))
        (request.getD "id" (.int 1)) (rest host request scenario head) := rfl

end Btc

namespace Ln

/-- The reply of the chain. -/
def rest (methodCfg : Value) : Except PyError Content := do
  let requestId := request.getD "id" (.int 1)
  let method := request.getD "method" (.str "unknown")
  let params := request.getD "params" (.list [])
  let result ← Btc.resultOf lndMethodDefaults methodCfg method
  let status := scenario .httpStatus
  if ← inResponses (responsesOf scenario) method then
    pure { status, body := resultEnvelope requestId result }
  else
    let written ← computed host head (scenario .blocksBehind) params result method
    let inPlace := method.eqText "getinfo" && result.isDict && (← methodCfg.contains "result")
    pure {
      status, body := resultEnvelope requestId written
      rewritten := if inPlace then some written else none }

theorem buildSuccess_eq :
    buildSuccess host request scenario head =
      front lndErrorStubs (responsesOf scenario) (request.getD "method" (.str "unknown"))
        (request.getD "id" (.int 1)) (rest host request scenario head) := rfl

end Ln

namespace Solana

/-- The result of a method that the chain computes, if it is one. -/
def resultStage (slot : Value) : Value → Except PyError (Option Value)
  | .str name => computed host slot quirks name
  | _ => pure none

/-- The reply of the chain. -/
def rest (methodCfg : Value) : Except PyError Content := do
  let requestId := request.getD "id" (.int 1)
  let status := scenario .httpStatus
  if ← methodCfg.contains "result" then
    pure { status, body := resultEnvelope requestId (← methodCfg.item "result") }
  else
    let slot ← host.add (.int head) (quirks .slotOffset)
    let found ← resultStage host quirks slot (request.getD "method" (.str "unknown"))
    match found with
    | some result => pure { status, body := resultEnvelope requestId result }
    | none =>
        if (quirks .unknownMethodMode).eqText "error" then
          let error ← tableItem solanaErrorStubs (.str "method_not_found")
          pure { status, body := errorEnvelope requestId error }
        else pure { status, body := resultEnvelope requestId .none }

theorem buildSuccess_eq :
    buildSuccess host request scenario quirks head =
      front solanaErrorStubs (responsesOf scenario) (request.getD "method" (.str "unknown"))
        (request.getD "id" (.int 1)) (rest host request scenario quirks head) := by
  unfold buildSuccess front rest resultStage
  cases request.getD "method" (.str "unknown") <;> rfl

end Solana

end

end ProviderSimulator.Chains
