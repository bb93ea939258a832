/-
**A simulator that was reset, and a new one.**

A reset of everything leaves traces: the anchor of a head, the time of the last write of a scenario, the
generation of a log and the rows that it once made. None of them shows. `Alike` is the relation between a
simulator with such traces and one without: each part has its own (`SameProviders`, `Follows`,
`SameHeads`), and an open request holds the same row of both logs, further behind in the one.

* `react_alike` — every event keeps the relation, and the outputs are the same;
* `reset_alike` — a simulator that was reset without a pool is like one with a registry that was just
  built (`withNewRegistry`), where no request is open;
* `reset_effect` — what resets do, and that nothing tells the two apart.
-/

import Mathlib.Tactic.Common
import ProviderSimulator.Simulator.Reset

namespace ProviderSimulator.Simulator

open ProviderSimulator.Lib ProviderSimulator.Python ProviderSimulator.Domain ProviderSimulator.Control
open ProviderSimulator.Domain.CallLog (Follows)
open ProviderSimulator.Listeners (RawRequest ServeResult Serving Env Effect serveAt)

/-! ### The relation -/

/-- The traces of earlier rows and generations in each log. -/
structure Traces where
  old : ProviderKey → List Row
  generations : ProviderKey → ℕ

/-- The same open request, where the rows stand further behind. -/
def Traces.shift (traces : Traces) (opened : OpenRequest) : OpenRequest :=
  { opened with ref := opened.ref + (traces.old opened.provider.key).length }

/-- **Simulators that cannot be told apart.** -/
structure Alike (traces : Traces) (first second : State) : Prop where
  stored : SameProviders first.stored second.stored
  logs : ∀ key, Follows (traces.old key) (traces.generations key) (first.logs key) (second.logs key)
  heads : SameHeads first.heads second.heads
  caches : first.caches = second.caches
  proxies : first.proxies = second.proxies
  requests : first.requests = second.requests.map traces.shift

section

variable {world : World} {traces : Traces} {first second : State}

/-! ### Requests -/

theorem Alike.request (alike : Alike traces first second) (place : ℕ) :
    first.requests[place]? = second.requests[place]?.map traces.shift := by
  rw [alike.requests, List.getElem?_map]

/-- One log changes in both. -/
theorem Alike.updateLog (alike : Alike traces first second) {key : ProviderKey} {one two : CallLog}
    (follows : Follows (traces.old key) (traces.generations key) one two) (other : ProviderKey) :
    Follows (traces.old other) (traces.generations other) (Function.update first.logs key one other)
      (Function.update second.logs key two other) := by
  by_cases here : other = key
  · subst here
    rw [Function.update_self, Function.update_self]
    exact follows
  · rw [Function.update_of_ne here, Function.update_of_ne here]
    exact alike.logs other

theorem Alike.onLog (alike : Alike traces first second) (key : ProviderKey) (op : CallLog.Op) :
    Alike traces (first.onLog world key (op.shift (traces.old key).length)) (second.onLog world key op) :=
  ⟨alike.stored, alike.updateLog ((alike.logs key).perform op), alike.heads, alike.caches, alike.proxies,
    alike.requests⟩

theorem Alike.arrive (alike : Alike traces first second) (provider : Provider) (endpoint : Endpoint)
    (stamp : Stamp) (headers : Headers) (deadline : Value) :
    Alike traces (first.arrive world provider endpoint stamp headers deadline)
      (second.arrive world provider endpoint stamp headers deadline) := by
  have logged : Alike traces (first.onLog world provider.key _) (second.onLog world provider.key _) :=
    alike.onLog provider.key (arrivalOp endpoint stamp headers deadline)
  refine ⟨logged.stored, logged.logs, logged.heads, logged.caches, logged.proxies, ?_⟩
  show first.requests ++ _ = (second.requests ++ _).map traces.shift
  rw [List.map_append, alike.requests, (alike.logs provider.key).rowCount]
  rfl

/-- The flow of a request reads the provider and one head. -/
theorem flowOf_alike (heads : SameHeads first.heads second.heads) (provider : Provider) (endpoint : Endpoint)
    {one two : ProviderState} (same : SameProvider one two) (request : RawRequest) (drawn : Drawn) :
    flowOf world first.heads provider endpoint one request drawn =
      flowOf world second.heads provider endpoint two request drawn := by
  have env : envOf one drawn = envOf two drawn := by
    funext head
    unfold envOf ProviderState.consumeFail
    rw [same.failCount, same.quirks, same.executed]
  unfold flowOf
  rw [env]
  split
  · rfl
  · rw [(heads _ _).current]

theorem providerAfter_alike {one two : ProviderState} (same : SameProvider one two) (effect : Effect) :
    SameProvider (providerAfter one effect) (providerAfter two effect) := by
  cases effect with
  | consumeFail => exact same.consumeFail
  | rememberExecuted digest time => exact same.rememberExecuted digest time
  | rewriteDefault result =>
      have written := same.store ⟨Listeners.rewriteDefault one.scenario.values result,
        rewriteDefault_stored one.scenario.stored result⟩ ?_
      · unfold providerAfter
        simp only [same.scenario] at written ⊢
        exact written
      · show Listeners.rewriteDefault one.scenario.values result .mode = _
        rcases Listeners.rewriteDefault_cases one.scenario.values result with kept | ⟨responses, written⟩
        · rw [kept]
        · rw [written]
          rfl
  | _ => exact same

theorem logAfter_follows {old : List Row} {generations : ℕ} {log fresh : CallLog}
    (follows : Follows old generations log fresh) (codec : Codec) (stamp : Stamp) (ref : ℕ) (effect : Effect) :
    Follows old generations (logAfter codec stamp (ref + old.length) log effect)
      (logAfter codec stamp ref fresh effect) := by
  cases effect with
  | recordBody body => exact follows.perform (.recordBody ref body)
  | recordPath path => exact follows.perform (.recordPath ref path)
  | finalize method label latencyMs requestId =>
      exact follows.perform (.finalize stamp ref ⟨method, label.name, latencyMs, requestId⟩)
  | _ => exact follows

/-- The effects of a request, one after the other. -/
theorem foldl_alike {one two : ProviderState} (same : SameProvider one two) (effects : List Effect) :
    SameProvider (effects.foldl providerAfter one) (effects.foldl providerAfter two) := by
  induction effects generalizing one two with
  | nil => exact same
  | cons effect rest ih => exact ih (providerAfter_alike same effect)

theorem foldl_follows {old : List Row} {generations : ℕ} {log fresh : CallLog}
    (follows : Follows old generations log fresh) (codec : Codec) (stamp : Stamp) (ref : ℕ)
    (effects : List Effect) :
    Follows old generations (effects.foldl (logAfter codec stamp (ref + old.length)) log)
      (effects.foldl (logAfter codec stamp ref) fresh) := by
  induction effects generalizing log fresh with
  | nil => exact follows
  | cons effect rest ih => exact ih (logAfter_follows follows codec stamp ref effect)

/-- **One request.** -/
theorem Alike.serve (alike : Alike traces first second) (opened : OpenRequest) (request : RawRequest)
    (drawn : Drawn) :
    (first.serve world (traces.shift opened) request drawn).2 = (second.serve world opened request drawn).2 ∧
      Alike traces (first.serve world (traces.shift opened) request drawn).1
        (second.serve world opened request drawn).1 := by
  have same := alike.stored opened.provider.key
  have flows : flowOf world first.heads opened.provider opened.endpoint _ request drawn = _ :=
    flowOf_alike alike.heads opened.provider opened.endpoint same request drawn
  unfold State.serve
  dsimp only [Traces.shift]
  rw [flows, same.scenario]
  refine ⟨rfl, alike.stored.update _ (foldl_alike same _), ?_, alike.heads, alike.caches, alike.proxies,
    alike.requests⟩
  exact alike.updateLog (foldl_follows (alike.logs _) world.codec drawn.stamp opened.ref _)

/-! ### Resets -/

theorem Alike.resetOne (alike : Alike traces first second) (call : ResetCall) (provider : Provider) :
    Alike traces (first.resetOne call provider) (second.resetOne call provider) := by
  unfold State.resetOne
  split
  · exact ⟨alike.stored.update _ (.resetProvider provider _ _), alike.logs, alike.heads, alike.caches,
      alike.proxies, alike.requests⟩
  · exact alike

theorem Alike.clearOne (alike : Alike traces first second) (call : ResetCall) (provider : Provider) :
    Alike traces (first.clearOne call provider) (second.clearOne call provider) := by
  unfold State.clearOne
  split
  · exact ⟨alike.stored, alike.updateLog (alike.logs provider.key).clear, alike.heads, alike.caches,
      alike.proxies, alike.requests⟩
  · exact alike

theorem Alike.resetEach (alike : Alike traces first second) (layout : Layout) (call : ResetCall)
    (providers : List Provider) (wishes : List Wish) :
    (resetEach layout call providers first wishes).2 =
        (Simulator.resetEach layout call providers second wishes).2 ∧
      Alike traces (Simulator.resetEach layout call providers first wishes).1
        (Simulator.resetEach layout call providers second wishes).1 := by
  induction providers generalizing first second wishes with
  | nil => exact ⟨rfl, alike⟩
  | cons provider rest ih =>
      have next := alike.resetOne call provider
      unfold Simulator.resetEach
      dsimp only
      rw [portWishes_alike next.stored]
      generalize (if call.scenario then
        portWishes layout (second.resetOne call provider).stored provider.endpoints else .ok []) = read
      cases read with
      | error error => exact ⟨rfl, next⟩
      | ok more => exact ih (next.clearOne call provider) (wishes ++ more)

theorem Alike.resetOthers (alike : Alike traces first second) (call : ResetCall) (whole : Bool) :
    Alike traces (first.resetOthers world call whole) (second.resetOthers world call whole) := by
  unfold State.resetOthers
  rw [alike.caches, alike.proxies]
  exact ⟨alike.stored, alike.logs, alike.heads, rfl, rfl, alike.requests⟩

theorem Alike.moveHeads (alike : Alike traces first second) (call : ResetCall) (moved : List Chain) :
    Alike traces (if call.scenario then { first with heads := resetHeads moved first.heads } else first)
      (if call.scenario then { second with heads := resetHeads moved second.heads } else second) := by
  split
  · exact ⟨alike.stored, alike.logs, alike.heads.reset moved, alike.caches, alike.proxies, alike.requests⟩
  · exact alike

/-- **One reset.** -/
theorem Alike.performReset (alike : Alike traces first second) (call : ResetCall) (pool : Value)
    (settlePorts : List Wish → String) :
    (first.performReset world call pool settlePorts).2 = (second.performReset world call pool settlePorts).2 ∧
      Alike traces (first.performReset world call pool settlePorts).1
        (second.performReset world call pool settlePorts).1 := by
  unfold State.performReset
  cases scopeOf world.layout pool with
  | error refusal => exact ⟨rfl, alike⟩
  | ok scope =>
      have both := (alike.moveHeads call scope.chains).resetEach world.layout call scope.providers []
      dsimp only
      generalize Simulator.resetEach world.layout call scope.providers
        (if call.scenario then { first with heads := resetHeads scope.chains first.heads } else first) [] = one
        at both ⊢
      generalize Simulator.resetEach world.layout call scope.providers
        (if call.scenario then { second with heads := resetHeads scope.chains second.heads } else second) [] = two
        at both ⊢
      obtain ⟨next, ended⟩ := one
      obtain ⟨next', ended'⟩ := two
      obtain ⟨ends, next⟩ := both
      cases ends
      cases ended with
      | error error => exact ⟨rfl, next⟩
      | ok wishes =>
          have done : Alike traces (State.resetOthers world _ call pool.isNone) _ :=
            next.resetOthers call pool.isNone
          refine ⟨?_, done⟩
          dsimp only
          unfold resetReply
          rw [done.caches, done.proxies]

/-! ### Every event -/

theorem closedPorts_alike (same : SameProviders first.stored second.stored) (gates : Dict ℕ Gate) :
    closedPorts first.stored gates = closedPorts second.stored gates := by
  induction gates with
  | nil => rfl
  | cons row rest ih =>
      unfold closedPorts
      rw [ih, (same row.2.provider).scenario]

/-- **Every event keeps the relation, and the outputs are the same.** -/
theorem react_alike (alike : Alike traces first second) (event : Event) :
    (react world first event).2 = (react world second event).2 ∧
      Alike traces (react world first event).1 (react world second event).1 := by
  cases event with
  | arrive key endpoint stamp headers deadline =>
      dsimp only [react]
      cases world.layout.registry.provider key.pool key.pid with
      | error refusal => exact ⟨rfl, alike⟩
      | ok provider =>
          dsimp only
          cases provider.endpoints[endpoint]? with
          | none => exact ⟨rfl, alike⟩
          | some endpoint => exact ⟨rfl, alike.arrive provider endpoint stamp headers deadline⟩
  | serve place request drawn =>
      dsimp only [react]
      rw [alike.request]
      cases second.requests[place]? with
      | none => exact ⟨rfl, alike⟩
      | some opened =>
          have both : (first.serve world (traces.shift opened) request drawn).2 = _ ∧ Alike traces _ _ :=
            alike.serve opened request drawn
          obtain ⟨ends, next⟩ := both
          exact ⟨congrArg Output.served ends, next⟩
  | statusSent place status =>
      dsimp only [react]
      rw [alike.request]
      cases second.requests[place]? with
      | none => exact ⟨rfl, alike⟩
      | some opened => exact ⟨rfl, alike.onLog opened.provider.key (.setGrpcStatus opened.ref status)⟩
  | leave place =>
      refine ⟨rfl, alike.stored, alike.logs, alike.heads, alike.caches, alike.proxies, ?_⟩
      show first.requests.eraseIdx place = (second.requests.eraseIdx place).map traces.shift
      rw [alike.requests, List.eraseIdx_map]
  | applyScenario settlePorts clock body =>
      have both : (applyScenario world.layout settlePorts clock first.stored body).answer = _ ∧
          SameProviders _ _ := applyScenario_alike settlePorts clock alike.stored body
      obtain ⟨ends, next⟩ := both
      exact ⟨congrArg Output.applied ends, next, alike.logs, alike.heads, alike.caches, alike.proxies,
        alike.requests⟩
  | sweep ttl now clock =>
      exact ⟨rfl, alike.stored.sweep ttl now clock, alike.logs, alike.heads, alike.caches, alike.proxies,
        alike.requests⟩
  | advance times body =>
      obtain ⟨ends, next⟩ := advance_alike world.host world.clock times alike.heads body
      exact ⟨congrArg Output.advanced ends, alike.stored, alike.logs, next, alike.caches, alike.proxies,
        alike.requests⟩
  | reset call pool settlePorts =>
      have both : (first.performReset world call pool settlePorts).2 = _ ∧ Alike traces _ _ :=
        alike.performReset call pool settlePorts
      obtain ⟨ends, next⟩ := both
      exact ⟨congrArg Output.reset ends, next⟩
  | getScenario =>
      refine ⟨?_, alike⟩
      show Output.scenarios _ = Output.scenarios _
      simp only [shown, (alike.stored _).scenario, (alike.stored _).quirks]
  | getStats =>
      refine ⟨?_, alike⟩
      show Output.stats _ = Output.stats _
      simp only [(alike.logs _).stats]
  | getHistory picked keep =>
      refine ⟨?_, alike⟩
      show Output.history _ = Output.history _
      simp only [(alike.logs _).getHistory]
  | portsClosed =>
      refine ⟨?_, alike⟩
      show Output.ports (portsClosedByScenario _ _) = Output.ports (portsClosedByScenario _ _)
      unfold portsClosedByScenario
      rw [closedPorts_alike alike.stored]

/-! ### A registry that was just built -/

/-- The simulator with a registry that was just built: providers as `add_provider` builds them, heads at
their base, and no open request. -/
def State.withNewRegistry (world : World) (state : State) : State :=
  { state with
    stored := writeEach (fun provider _ => ProviderState.fresh provider.chain)
      world.layout.registry.allProviders state.stored
    logs := fun key =>
      if key ∈ keysOf world.layout.registry.allProviders then (state.logs key).rebuilt else state.logs key
    heads := fun chain name =>
      if name ∈ headNames chain then .new (state.heads chain name).base else state.heads chain name
    requests := [] }

theorem mem_chains (chain : Chain) : chain ∈ chains := by
  cases chain <;> decide

/-- A loop that asks nothing of the old states: only those that it does not write matter. -/
theorem writeEach_const {build : Provider → ProviderState} {providers : List Provider} {one two : Stored}
    (agree : ∀ key, key ∉ keysOf providers → one key = two key) :
    writeEach (fun provider _ => build provider) providers one =
      writeEach (fun provider _ => build provider) providers two := by
  induction providers generalizing one two with
  | nil => exact funext fun key => agree key List.not_mem_nil
  | cons provider rest ih =>
      refine ih fun key outside => ?_
      by_cases here : key = provider.key
      · rw [here, Function.update_self, Function.update_self]
      · rw [Function.update_of_ne here, Function.update_of_ne here]
        exact agree key fun member => (List.mem_cons.mp member).elim here outside

/-- **A reset of everything** leaves a simulator that is like one with a new registry. -/
theorem reset_alike (world : World) {state : State} (idle : state.requests = [])
    (settlePorts : List Wish → String) :
    ∃ traces, Alike traces (state.performReset world .resetAll .none settlePorts).1
      ((state.performReset world .resetAll .none settlePorts).1.withNewRegistry world) := by
  let providers := world.layout.registry.allProviders
  have found : scopeOf world.layout .none = .ok ⟨providers, chains⟩ := rfl
  obtain ⟨answer, done⟩ := performReset_eq world found state .resetAll settlePorts
  have scenario : ResetCall.resetAll.scenario = true := rfl
  rw [done, resetWithin_scenario world scenario]
  have logs : ∀ key, key ∈ keysOf providers → EmptyLog (clearEach providers state.logs key) := fun key member =>
    clearEach_of_mem member state.logs
  refine ⟨⟨fun key => if key ∈ keysOf providers then (clearEach providers state.logs key).rows else [],
    fun key => if key ∈ keysOf providers then (clearEach providers state.logs key).resetGeneration else 0⟩,
    ?_, fun key => ?_, fun chain name => ?_, rfl, rfl, ?_⟩
  · show SameProviders (writeEach resetProvider providers state.stored)
      (writeEach (fun provider _ => ProviderState.fresh provider.chain) providers
        (writeEach resetProvider providers state.stored))
    rw [writeEach_const fun key outside => writeEach_of_not_mem outside state.stored]
    have start : SameProviders state.stored state.stored := fun key => .refl _
    exact start.writeEach (fun provider first _ _ => .fresh provider first) providers
  · show Follows (if key ∈ keysOf providers then _ else _) (if key ∈ keysOf providers then _ else _)
      (clearEach providers state.logs key) (if key ∈ keysOf providers then _ else _)
    by_cases member : key ∈ keysOf providers
    · rw [if_pos member, if_pos member, if_pos member]
      exact .new (logs key member).history (logs key member).totalCalls (logs key member).callsByStatus
    · rw [if_neg member, if_neg member, if_neg member]
      exact .refl _
  · show SameHead (resetHeads chains state.heads chain name)
      (if name ∈ headNames chain then .new (resetHeads chains state.heads chain name).base
        else resetHeads chains state.heads chain name)
    by_cases own : name ∈ headNames chain
    · have moved : resetHeads chains state.heads chain name = (state.heads chain name).reset :=
        if_pos ⟨mem_chains chain, own⟩
      rw [if_pos own, moved]
      exact .new _
    · rw [if_neg own]
      exact .refl _
  · show state.requests = _
    rw [idle]
    rfl

/-- **What resets do.** A scenario reset of a known pool does what `ResetsPool` says. A pool that is unknown
or no text changes nothing. And after a reset of everything, no later events tell the simulator from one
with a registry that was just built. -/
theorem reset_effect (world : World) (state : State) (settlePorts : List Wish → String) :
    (∀ call : ResetCall, call.scenario = true → ∀ name row,
        world.layout.registry.pools.get name = some row →
          ResetsPool world call name row state (state.performReset world call (.str name) settlePorts).1) ∧
      (∀ call pool, ¬ KnownPool world.layout pool →
        (state.performReset world call pool settlePorts).1 = state) ∧
      (state.requests = [] → ∀ later : List Event,
        outputs (react world) (state.performReset world .resetAll .none settlePorts).1 later =
          outputs (react world)
            ((state.performReset world .resetAll .none settlePorts).1.withNewRegistry world) later) := by
  refine ⟨fun call scenario name row known => ?_, fun call pool unknown => ?_, fun idle later => ?_⟩
  · exact performReset_pool world known scenario state settlePorts
  · obtain ⟨refusal, refused⟩ := performReset_refused world unknown state call settlePorts
    rw [refused]
  · obtain ⟨traces, alike⟩ := reset_alike world idle settlePorts
    exact outputs_eq_of_alike (Alike traces) (fun _ _ event same => react_alike same event) alike later

end

/-! ### A simulator with one provider -/

/-- A world with one Lightning provider. Its clock has no rate to count. -/
def lnWorld : World where
  layout := Listeners.lnLayout
  host := Listeners.lnSite.host
  reader := Listeners.lnSite.reader
  codec := ⟨fun _ => "", fun _ => "", fun _ => ""⟩
  clock := ⟨fun _ _ _ => .ok 0⟩
  caching := CacheSim.emptyEnv
  stalled _ _ _ error := .raised error

/-- The Bitcoin head was bumped, and the provider has counted a request. -/
def usedState : State where
  stored key := { initial Listeners.lnLayout key with failCount := 3 }
  logs key := { CallLog.new key.pool key.pid "ln" 2000 with totalCalls := 3, resetGeneration := 1 }
  heads _ _ := { AdvancingHead.new 880000 with extra := 5 }
  caches := []
  proxies := []
  requests := []

/-- A world with one Ethereum provider, whose replies read the head of its own chain. -/
def ethWorld : World :=
  { lnWorld with layout := soloLayout, host := Listeners.numberHost, reader := Listeners.numberSite.reader }

/-- The head was bumped by five blocks, and the provider has counted a request. -/
def bumpedState : State :=
  { usedState with
    stored := fun key => { initial soloLayout key with failCount := 3 }
    heads := fun _ _ => { AdvancingHead.new 20000000 with extra := 5 } }

/-- What the request draws. -/
def ethDrawn : Drawn where
  roll := 0
  rollNonneg := Env.least_roll
  nextId := 1
  now := 0
  token := "0x1"
  unregistered := false
  readAt := 0
  stamp := ⟨0, ""⟩

/-- A request for the head, and what is shown of it afterwards. -/
def headEvents : List Event :=
  [.arrive ⟨"eth-sim", "1"⟩ 0 ⟨0, ""⟩ [] .none, .serve 0 { body := Listeners.numberBody } ethDrawn,
    .statusSent 0 "200", .getStats, .getScenario, .getHistory (fun _ => true) fun _ => true]

/-- The reply that was built. -/
def Output.built : Output → Option ServeResult
  | .served (.ok result) => some result
  | _ => none

/-- The reply with a height. -/
def headReply (height : String) : ServeResult where
  action := .respond
  body := .value (.object [("jsonrpc", .str "2.0"), ("id", .int 1), ("result", .str height)])

/-- A reset of the pool with the moved head, of a pool that is not there, and of everything: the reply that showed the
moved head shows the base again, as with a registry that was just built. -/
theorem reset_effect_eth :
    (outputs (react ethWorld) bumpedState headEvents).filterMap Output.built = [headReply "0x1312D05"] ∧
      ResetsPool ethWorld .resetAll "eth-sim" ⟨.eth, [("1", [soloEndpoint])]⟩ bumpedState
        (bumpedState.performReset ethWorld .resetAll (.str "eth-sim") fun _ => "").1 ∧
      (bumpedState.performReset ethWorld .reset (.int 7) fun _ => "").1 = bumpedState ∧
      (outputs (react ethWorld) (bumpedState.performReset ethWorld .resetAll .none fun _ => "").1
          headEvents).filterMap Output.built = [headReply "0x1312D00"] ∧
      outputs (react ethWorld) (bumpedState.performReset ethWorld .resetAll .none fun _ => "").1 headEvents =
        outputs (react ethWorld)
          ((bumpedState.performReset ethWorld .resetAll .none fun _ => "").1.withNewRegistry ethWorld) headEvents := by
  obtain ⟨pool, refused, later⟩ := reset_effect ethWorld bumpedState fun _ => ""
  refine ⟨by decide +kernel, pool .resetAll rfl "eth-sim" _ rfl, refused .reset (.int 7) ?_, by decide +kernel,
    later rfl headEvents⟩
  rintro (none | ⟨name, row, text, -⟩)
  · cases none
  · cases text

end ProviderSimulator.Simulator
