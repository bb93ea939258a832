/-
**The simulator as one machine.**

A simulator holds the state of its providers, their logs, the heads of the chains, the cache-sims and the
RESP proxies. It reacts to requests, to the calls of the control API, and to the time-to-live sweep.

* A request is open between its arrival and its end. The adapter records the arrival, `serve` answers it,
  a gRPC adapter then notes the status that it sent, and the adapter lets the row go. Other events may
  fall between any two of these.
* A reset takes a scope (`scopeOf`): every provider and every chain, or one pool and its chain. It moves
  heads, resets providers one after the other, clears logs, and then turns to the caches and the proxies.

What a request takes from outside (`Drawn`) comes with its event: the clock, the random draw, the
generated ids, and what the registry of subscriptions answers. How the wait for the ports of a call ends
comes with the call.
-/

import Mathlib.Tactic.Common
import ProviderSimulator.CacheSim.Reset
import ProviderSimulator.Control.Advance
import ProviderSimulator.Control.SameProviders
import ProviderSimulator.Domain.CallLogRenewed
import ProviderSimulator.Listeners.HiddenState
import ProviderSimulator.RespProxy.Model

namespace ProviderSimulator.Simulator

open ProviderSimulator.Lib ProviderSimulator.Python ProviderSimulator.Domain ProviderSimulator.Control
open ProviderSimulator.Listeners (RawRequest ServeResult Serving Env Effect serveAt)

/-! ### The state -/

/-- A request between its arrival and its end, with the row that its adapter holds. -/
structure OpenRequest where
  provider : Provider
  endpoint : Endpoint
  ref : ℕ

/-- What the simulator holds. -/
structure State where
  stored : Stored
  logs : ProviderKey → CallLog
  heads : Heads
  /-- `CacheSimRegistry`. -/
  caches : Dict String CacheSim.Sim
  /-- `RespProxyRegistry`: what the lock of each proxy protects. -/
  proxies : Dict String RespProxy.Shared
  requests : List OpenRequest

/-- What never changes: the layout, and the functions of the language. -/
structure World where
  layout : Layout
  host : Host
  reader : GraphqlDocument.Reader
  codec : Codec
  clock : HeadClock
  caching : CacheSim.Environment
  /-- The flow of a request whose head raises when the reply reads it. How far such a request gets is left
  open. -/
  stalled : Listeners.Site → Env → RawRequest → PyError → Serving ServeResult

/-! ### Requests -/

/-- What one request takes from outside. -/
structure Drawn where
  roll : ℚ
  rollNonneg : 0 ≤ roll
  nextId : ℤ
  now : ℚ
  token : String
  unregistered : Bool
  /-- When the reply reads its head. -/
  readAt : ℚ
  /-- When the row is finished. -/
  stamp : Stamp

/-- What a request finds at its provider. -/
def envOf (state : ProviderState) (drawn : Drawn) (head : ℤ) : Env where
  count := state.consumeFail.2
  roll := drawn.roll
  rollNonneg := drawn.rollNonneg
  quirks := state.quirks
  head := head
  nextId := drawn.nextId
  now := drawn.now
  executed := state.executed
  token := drawn.token
  unregistered := drawn.unregistered

/-- A write into the stored block touches no filter. -/
theorem rewriteDefault_stored {values : Scenario} (stored : StoredFilters values) (result : Value) :
    StoredFilters (Listeners.rewriteDefault values result) := by
  rcases Listeners.rewriteDefault_cases values result with same | ⟨responses, written⟩
  · rw [same]
    exact stored
  · rw [written]
    exact ⟨stored.transports, stored.ports⟩

/-- What an effect does to the provider. -/
def providerAfter (state : ProviderState) : Effect → ProviderState
  | .consumeFail => state.consumeFail.1
  | .rememberExecuted digest time => state.rememberExecuted digest time
  | .rewriteDefault result =>
      { state with
        scenario := ⟨Listeners.rewriteDefault state.scenario.values result,
          rewriteDefault_stored state.scenario.stored result⟩ }
  | _ => state

/-- What an effect does to the log. The arrival is in it already. -/
def logAfter (codec : Codec) (stamp : Stamp) (ref : ℕ) (log : CallLog) : Effect → CallLog
  | .recordBody body => log.perform codec (.recordBody ref body)
  | .recordPath path => log.perform codec (.recordPath ref path)
  | .finalize method label latencyMs requestId =>
      log.perform codec (.finalize stamp ref ⟨method, label.name, latencyMs, requestId⟩)
  | _ => log

section

variable (world : World)

/-- The listener of an endpoint. -/
def siteOf (provider : Provider) (endpoint : Endpoint) : Listeners.Site :=
  ⟨world.host, world.reader, provider.chain, endpoint⟩

/-- `serve`, with the arrival recorded: the flow reads the head of its interface, if there is one. -/
def flowOf (heads : Heads) (provider : Provider) (endpoint : Endpoint) (state : ProviderState)
    (request : RawRequest) (drawn : Drawn) : Serving ServeResult :=
  let site := siteOf world provider endpoint
  match headOf provider.chain endpoint.interface with
  | none => serveAt site (envOf state drawn 0) request true
  | some (chain, name) =>
      match (heads chain name).current world.clock drawn.readAt with
      | .ok head => serveAt site (envOf state drawn head) request true
      | .error error => world.stalled site (envOf state drawn 0) request error

/-- The row of an arrival: the headers whose name starts with `lava-` stand apart. -/
def arrivalOp (endpoint : Endpoint) (stamp : Stamp) (headers : Headers) (deadline : Value) : CallLog.Op :=
  .recordArrival stamp ⟨endpoint.interface.name, endpoint.transport.name, endpoint.port⟩
    (headers.filter fun header => header.1.toLower.startsWith "lava-") headers deadline

/-- An operation on the log of one provider. -/
def State.onLog (state : State) (key : ProviderKey) (op : CallLog.Op) : State :=
  { state with logs := Function.update state.logs key ((state.logs key).perform world.codec op) }

/-- `arrive` at an endpoint of a provider. -/
def State.arrive (state : State) (provider : Provider) (endpoint : Endpoint) (stamp : Stamp)
    (headers : Headers) (deadline : Value) : State :=
  let arrived := state.onLog world provider.key (arrivalOp endpoint stamp headers deadline)
  { arrived with requests := state.requests ++ [⟨provider, endpoint, (state.logs provider.key).rows.length⟩] }

/-- `serve` of an open request. -/
def State.serve (state : State) (opened : OpenRequest) (request : RawRequest) (drawn : Drawn) :
    State × Except PyError ServeResult :=
  let key := opened.provider.key
  let found := state.stored key
  let outcome := (flowOf world state.heads opened.provider opened.endpoint found request drawn).outcomeAt
    found.scenario.values
  ({ state with
      stored := Function.update state.stored key (outcome.effects.foldl providerAfter found)
      logs := Function.update state.logs key
        (outcome.effects.foldl (logAfter world.codec drawn.stamp opened.ref) (state.logs key)) },
    outcome.result)

/-! ### Resets -/

/-- The three calls. -/
inductive ResetCall
  | reset
  | clearHistory
  | resetAll

/-- Does the call reset scenarios? -/
def ResetCall.scenario : ResetCall → Bool
  | .clearHistory => false
  | _ => true

/-- Does the call clear logs? -/
def ResetCall.history : ResetCall → Bool
  | .reset => false
  | _ => true

/-- The status of the reply. -/
def ResetCall.status : ResetCall → String
  | .reset => "scenario reset"
  | .clearHistory => "history cleared"
  | .resetAll => "scenario reset and history cleared"

/-- Why a reset answers 400. -/
inductive ResetRefusal
  | poolNoText (given : Value)
  | noPool (name : String) (pools : List String)

/-- The text of the answer. -/
def ResetRefusal.text (repr : Value → String) : ResetRefusal → String
  | .poolNoText given => "pool must be a string, got " ++ given.typeName
  | .noPool name pools =>
      "no pool " ++ repr (.str name) ++ "; pools are " ++ repr (textList (sortedTexts pools))

/-- What a reset may touch. -/
structure ResetScope where
  providers : List Provider
  chains : List Chain

/-- `_scope`. -/
def scopeOf (layout : Layout) : Value → Except ResetRefusal ResetScope
  | .none => .ok ⟨layout.registry.allProviders, chains⟩
  | .str pool =>
      match layout.registry.pools.get pool with
      | some row => .ok ⟨Registry.providersOf pool row, [row.chain]⟩
      | none => .error (.noPool pool layout.registry.pools.keys)
  | other => .error (.poolNoText other)

/-- The writes of a reset to one provider before its ports are read. -/
def State.resetOne (state : State) (call : ResetCall) (provider : Provider) : State :=
  if call.scenario then
    { state with
      stored := Function.update state.stored provider.key
        (resetProvider provider (state.stored provider.key)) }
  else state

/-- `log.clear()` for one provider. -/
def State.clearOne (state : State) (call : ResetCall) (provider : Provider) : State :=
  if call.history then
    { state with logs := Function.update state.logs provider.key (state.logs provider.key).clear }
  else state

/-- The loop over the providers. -/
def resetEach (layout : Layout) (call : ResetCall) :
    List Provider → State → List Wish → State × Except PyError (List Wish)
  | [], state, wishes => (state, .ok wishes)
  | provider :: rest, state, wishes =>
      let next := state.resetOne call provider
      match if call.scenario then portWishes layout next.stored provider.endpoints else .ok [] with
      | .error error => (next, .error error)
      | .ok more => resetEach layout call rest (next.clearOne call provider) (wishes ++ more)

/-- What a reset of the whole simulator does to a cache-sim. Going back to the default mode raises
nothing. -/
def resetCache (call : ResetCall) (sim : CacheSim.Sim) : CacheSim.Sim :=
  match call with
  | .resetAll => sim.reset
  | .reset => (sim.stage world.caching { mode := "miss" }).1
  | .clearHistory => sim.clearCalls

/-- What a reset does to a proxy: every one clears the latency, and a scenario reset of the whole simulator
reopens the gate. -/
def resetProxy (call : ResetCall) (whole : Bool) (proxy : RespProxy.Shared) : RespProxy.Shared :=
  { proxy with
    state := if whole && call.scenario then .forwarding else proxy.state
    latencyMs := 0 }

/-- The part of a reset that is not about providers. -/
def State.resetOthers (state : State) (call : ResetCall) (whole : Bool) : State :=
  { state with
    caches := if whole then state.caches.map fun row => (row.1, resetCache world call row.2) else state.caches
    proxies := state.proxies.map fun row => (row.1, resetProxy call whole row.2) }

/-- What a reset answers. -/
inductive ResetAnswer
  | refused (refusal : ResetRefusal)
  | notSettled (text : String)
  | ok (status : String) (pool : Value) (providers chains caches proxies : List String)

/-- The reply of a reset that was done. -/
def resetReply (state : State) (call : ResetCall) (pool : Value) (scope : ResetScope) : ResetAnswer :=
  .ok call.status pool (sortedTexts (scope.providers.map fun provider => provider.key.text))
    (if call.scenario then sortedTexts (scope.chains.map Chain.name) else [])
    (if pool.isNone then sortedTexts state.caches.keys else [])
    (if pool.isNone && call.scenario then sortedTexts state.proxies.keys else [])

/-- `_perform_reset`. -/
def State.performReset (state : State) (call : ResetCall) (pool : Value)
    (settlePorts : List Wish → String) : State × Except PyError ResetAnswer :=
  match scopeOf world.layout pool with
  | .error refusal => (state, .ok (.refused refusal))
  | .ok scope =>
      let moved := if call.scenario then { state with heads := resetHeads scope.chains state.heads } else state
      match resetEach world.layout call scope.providers moved [] with
      | (next, .error error) => (next, .error error)
      | (next, .ok wishes) =>
          let done := next.resetOthers world call pool.isNone
          let text := settlePorts wishes
          (done, .ok (if text = "" then resetReply done call pool scope else .notSettled text))

/-! ### Reads -/

/-- What `get_scenario` shows of one provider: every field but `responses`, and then its quirks. -/
def shown (provider : Provider) (state : ProviderState) : List (String × Value) :=
  ((ScenarioField.all.filter fun field => field ≠ .responses).map fun field =>
    (field.name, state.scenario.values field)) ++
    provider.chain.quirksFields.map fun field => (field.name, state.quirks field)

/-- The ports that a scenario closes. -/
def closedPorts (stored : Stored) : Dict ℕ Gate → Except PyError (List ℕ)
  | [] => .ok []
  | (port, gate) :: rest => do
      let closed ← FaultPolicy.portClosed (stored gate.provider).scenario.values gate.endpoint
      let others ← closedPorts stored rest
      pure (if closed then port :: others else others)

/-- `ports_closed_by_scenario`. -/
def portsClosedByScenario (layout : Layout) (stored : Stored) : Except PyError (List ℕ) := do
  pure ((← closedPorts stored layout.gates).mergeSort fun first second => first ≤ second)

/-! ### The machine -/

/-- What happens to a simulator. An open request is named by its place among the open ones. -/
inductive Event
  | arrive (key : ProviderKey) (endpoint : ℕ) (stamp : Stamp) (headers : Headers) (deadline : Value)
  | serve (place : ℕ) (request : RawRequest) (drawn : Drawn)
  /-- `status_sent`. -/
  | statusSent (place : ℕ) (status : String)
  /-- The adapter lets the row go. -/
  | leave (place : ℕ)
  | applyScenario (settlePorts : List Wish → String) (clock : ProviderKey → ℚ) (body : Json)
  | sweep (ttl now : ℚ) (clock : ProviderKey → ℚ)
  | advance (times : AdvanceTimes) (body : Value)
  | reset (call : ResetCall) (pool : Value) (settlePorts : List Wish → String)
  | getScenario
  | getStats
  /-- `get_history`: the providers that `pool` and `pid` pick, and the filter on rows. -/
  | getHistory (picked : Provider → Bool) (keep : Row → Bool)
  | portsClosed

/-- What is seen of it. -/
inductive Output
  | nothing
  | served (result : Except PyError ServeResult)
  | applied (answer : Except PyError Answer)
  | advanced (answer : Except PyError AdvanceAnswer)
  | reset (answer : Except PyError ResetAnswer)
  | scenarios (rows : List (String × List (String × Value)))
  | stats (rows : List (String × CallLog.Stats))
  | history (rows : List Row)
  | ports (closed : Except PyError (List ℕ))

/-- One event. -/
def react (state : State) : Event → State × Output
  | .arrive key endpoint stamp headers deadline =>
      match world.layout.registry.provider key.pool key.pid with
      | .error _ => (state, .nothing)
      | .ok provider =>
          match provider.endpoints[endpoint]? with
          | none => (state, .nothing)
          | some endpoint => (state.arrive world provider endpoint stamp headers deadline, .nothing)
  | .serve place request drawn =>
      match state.requests[place]? with
      | none => (state, .nothing)
      | some opened =>
          let served := state.serve world opened request drawn
          (served.1, .served served.2)
  | .statusSent place status =>
      match state.requests[place]? with
      | none => (state, .nothing)
      | some opened => (state.onLog world opened.provider.key (.setGrpcStatus opened.ref status), .nothing)
  | .leave place => ({ state with requests := state.requests.eraseIdx place }, .nothing)
  | .applyScenario settlePorts clock body =>
      let outcome := applyScenario world.layout settlePorts clock state.stored body
      ({ state with stored := outcome.state }, .applied outcome.answer)
  | .sweep ttl now clock =>
      ({ state with stored := revertStaleScenarios world.layout ttl now clock state.stored }, .nothing)
  | .advance times body =>
      let moved := advance world.host world.clock times state.heads body
      ({ state with heads := moved.1 }, .advanced moved.2)
  | .reset call pool settlePorts =>
      let done := state.performReset world call pool settlePorts
      (done.1, .reset done.2)
  | .getScenario =>
      (state, .scenarios (world.layout.registry.allProviders.map fun provider =>
        (provider.key.text, shown provider (state.stored provider.key))))
  | .getStats =>
      (state, .stats (world.layout.registry.allProviders.map fun provider =>
        (provider.key.text, (state.logs provider.key).stats)))
  | .getHistory picked keep =>
      (state, .history ((world.layout.registry.allProviders.filter picked).flatMap fun provider =>
        (state.logs provider.key).getHistory keep))
  | .portsClosed => (state, .ports (portsClosedByScenario world.layout state.stored))

end

end ProviderSimulator.Simulator
