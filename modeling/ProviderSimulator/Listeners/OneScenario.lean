/-
**One request, one scenario.**

A `Call` is one call of `serve` among updates and resets of the scenario of its provider. Each update and
each reset writes the whole block under its lock, and each snapshot reads the whole block, so the writes
fall between two steps of the call.

A call takes one snapshot, and its result is the one of that block. The GraphQL listener is the exception:
for a body that it cannot read as a request it takes a second snapshot, and reads `unreadable_reply` from
it, while the chosen headers come from the first. So the result is the one of a single block if no write
changes the block between the two (`WritesApart`), and `two_scenarios` is a reply that no block describes.

* `serveAt_readOnce` — every other call reads once;
* `callStep_steady` — one step of the call or of a writer;
* `one_request_one_scenario` — every interleaving.
-/

import Mathlib.Tactic.Common
import ProviderSimulator.Lib.Machine
import ProviderSimulator.Listeners.Reads

namespace ProviderSimulator.Listeners

open ProviderSimulator.Lib ProviderSimulator.Lib.Flow ProviderSimulator.Python ProviderSimulator.Domain

/-! ### A call among writers -/

/-- What can happen next: a write of the scenario, or a step of the call. -/
inductive CallAction
  | update (cfg : ScenarioUpdates)
  | reset
  | advance

/-- A call of `serve`, and the stored block. -/
structure Call where
  config : ScenarioConfig
  running : Running Scenario PyError Effect ServeResult

/-- The block that an action stores. An update that is refused stores nothing. -/
def Call.stores (call : Call) : CallAction → Option ScenarioConfig
  | .update cfg => (call.config.update cfg).toOption
  | .reset => some ScenarioConfig.default
  | .advance => none

/-- One step of the call, or of a writer. -/
def callStep (call : Call) (action : CallAction) : Option Call :=
  match action with
  | .advance => (call.running.step .advance).map fun running => { call with running }
  | write =>
      match call.stores write with
      | some config => (call.running.step (.write config.values)).map fun running => ⟨config, running⟩
      | none => some call

section

variable (site : Site) (env : Env) (request : RawRequest) (arrived : Bool)

/-- The begin of a call. -/
def Call.start (config : ScenarioConfig) : Call :=
  ⟨config, Running.start config.values (serveAt site env request arrived)⟩

/-- A GraphQL call with an unreadable body that has taken a snapshot and has another one to take sees no
change of the block. -/
def WritesApart (call : Call) (action : CallAction) : Prop :=
  ∀ config, call.stores action = some config →
    site.endpoint.interface = .graphql → unreadable site request = true →
      call.running.reads ≠ 0 → ¬ call.running.flow.ReadFree → config.values = call.running.stored

/-! ### Snapshots -/

/-- **A call takes one snapshot**, unless it has to read an unreadable GraphQL body. -/
theorem serveAt_readOnce (plain : site.endpoint.interface = .graphql → unreadable site request = false) :
    (serveAt site env request arrived).ReadOnce := by
  have parse := hooks_parse_tame site env request plain
  have answered : ∀ scenario, (answer site (hooks site env) env request scenario).ReadFree := fun scenario =>
    answer_readFree env scenario request site
      (fun parsed scenario => hooks_content_tame site env parsed scenario request) parse
  have served : (serve site (hooks site env) env request arrived).ReadOnce :=
    (arrival_tame request arrived).bind_readOnce fun _ => .read answered
  refine ReadOnce.bind served fun result => ?_
  split
  · exact .done _
  · exact .done _

/-! ### Steps -/

variable {site env request arrived}

/-- **One step**, of the call or of a writer. -/
theorem callStep_steady {call next : Call} {action : CallAction}
    (apart : WritesApart site request call action) (stepped : callStep call action = some next)
    (inv : Steady (serveAt site env request arrived) call.running) :
    Steady (serveAt site env request arrived) next.running := by
  have written : ∀ config, call.stores action = some config → ∀ running,
      call.running.step (.write config.values) = some running →
        Steady (serveAt site env request arrived) running := by
    intro config stores running moved
    refine inv.step (fun more => ?_) moved
    intro again reading
    by_cases plain : site.endpoint.interface = .graphql → unreadable site request = false
    · exact absurd (serveAt_readOnce site env request arrived plain) more
    · push Not at plain
      exact apart config stores plain.1 (Bool.not_eq_false _ ▸ plain.2) again reading
  cases action with
  | advance =>
      obtain ⟨running, moved, rfl⟩ := Option.map_eq_some_iff.mp stepped
      have quiet : Undisturbed call.running .advance := trivial
      exact inv.step (fun _ => quiet) moved
  | update cfg =>
      cases stores : call.stores (.update cfg) with
      | none =>
          simp only [callStep, stores] at stepped
          cases stepped
          exact inv
      | some config =>
          simp only [callStep, stores] at stepped
          obtain ⟨running, moved, rfl⟩ := Option.map_eq_some_iff.mp stepped
          exact written config stores running moved
  | reset =>
      simp only [callStep, Call.stores] at stepped
      obtain ⟨running, moved, rfl⟩ := Option.map_eq_some_iff.mp stepped
      exact written _ rfl running moved

end

/-! ### Every interleaving -/

/-- **One request, one scenario.** In every interleaving of a call with updates and resets that keeps the
writes apart, the call ends as it does under one block that was stored at some moment of the call. -/
theorem one_request_one_scenario (site : Site) (env : Env) (request : RawRequest) (arrived : Bool)
    (config : ScenarioConfig) (actions : List CallAction) (final : Call)
    (outcome : Outcome PyError Effect ServeResult)
    (apart : MeetsAlong callStep (WritesApart site request) (Call.start site env request arrived config)
      actions)
    (done : run callStep (Call.start site env request arrived config) actions = some final)
    (ended : final.running.ended = some outcome) :
    ∃ scenario ∈ final.running.seen, (serveAt site env request arrived).outcomeAt scenario = outcome := by
  have steady := run_invariant_of_meets
    (fun call : Call => Steady (serveAt site env request arrived) call.running)
    (WritesApart site request) (fun _ _ _ => callStep_steady) apart done (Steady.start _ _)
  exact steady.ended ended

/-- A host that reads no body. The calls below send none. -/
def silentHost : Host where
  str _ := ""
  addFloat a _ := a
  toFloat number := some (.finite number)
  digit _ := none
  space _ := false
  loads _ := .error (.badJson "Expecting value" 1 1)
  loadsText _ := .error (.badJson "Expecting value" 1 1)
  jsonErrorText _ := "Expecting value: line 1 column 1 (char 0)"
  decode _ := .ok ""
  encode _ := []
  decodeBase64 _ := none
  blake2b _ := []
  frames := 900

/-- A provider of a chain with one endpoint. -/
def silentSite (chain : Chain) (endpoint : Endpoint) : Site where
  host := silentHost
  reader := ⟨fun _ _ _ => .error (.fault .parse ""), fun value _ _ => .ok value⟩
  chain := chain
  endpoint := endpoint

/-- A request at rest: the first count, no draw above zero, the default quirks. -/
def restEnv (chain : Chain) (head : ℤ) : Env where
  count := 1
  roll := 0
  rollNonneg := Env.least_roll
  quirks := chain.quirksDefault
  head := head
  nextId := 1
  now := 0
  executed := []
  token := "0x1"
  unregistered := false

/-- `{"reply_headers": {"X-A": "1"}}`. -/
def headersGiven : ScenarioUpdates :=
  Block.empty.set .replyHeaders (.object [("X-A", .str "1")])

/-- A JSON-RPC call with an empty body that is written to after its snapshot. -/
def ethCall : Call :=
  Call.start (silentSite .eth ⟨.jsonrpc, .http, 18545⟩) (restEnv .eth 20000000) {} false .default

def writtenLate : List CallAction := [.advance, .advance, .update headersGiven, .reset, .advance]

/-- The reply of a JSON-RPC call has no part of a block that is stored after its snapshot. -/
theorem one_request_one_scenario_late :
    ∃ final outcome, run callStep ethCall writtenLate = some final ∧ final.running.ended = some outcome ∧
      ∃ scenario ∈ final.running.seen,
        (serveAt (silentSite .eth ⟨.jsonrpc, .http, 18545⟩) (restEnv .eth 20000000) {} false).outcomeAt
          scenario = outcome := by
  obtain ⟨final, done⟩ : ∃ final, run callStep ethCall writtenLate = some final :=
    Option.isSome_iff_exists.mp (by decide +kernel)
  have finished : ((run callStep ethCall writtenLate).bind fun final => final.running.ended).isSome = true := by
    decide +kernel
  rw [done] at finished
  obtain ⟨outcome, ended⟩ := Option.isSome_iff_exists.mp finished
  refine ⟨final, outcome, done, ended, ?_⟩
  refine one_request_one_scenario _ _ _ _ _ writtenLate final outcome ?_ done ended
  exact meetsAlong_of_forall (fun _ _ _ _ graphql => by cases graphql) _ _

/-! ### Two snapshots of an unreadable body -/

/-- `{"reply_headers": null, "unreadable_reply": {"status": 418}}`. -/
def replyGiven : ScenarioUpdates :=
  (Block.empty.set .replyHeaders .none).set .unreadableReply (.object [("status", .int 418)])

/-- A Sui provider with one GraphQL endpoint. -/
def suiSite : Site := silentSite .sui ⟨.graphql, .http, 19000⟩

/-- A GraphQL call with an empty body, under the chosen header `X-A`. -/
def suiCall : Call := Call.start suiSite (restEnv .sui 200000000) {} false .default

/-- The second write comes after the first snapshot. -/
def writtenBetween : List CallAction :=
  .update headersGiven :: List.replicate 4 .advance ++ .update replyGiven :: List.replicate 2 .advance

/-- The status of the second block with the header of the first. -/
def mixedReply : ServeResult :=
  { respond (.int 418) (.str "") with replyHeaders := .object [("X-A", .str "1")] }

/-- The reply with which a run ends, if no block that was stored gives it. -/
def unexplained (actions : List CallAction) : Option ServeResult := do
  let final ← run callStep suiCall actions
  let outcome ← final.running.ended
  let result ← outcome.result.toOption
  let given := fun scenario =>
    ((serveAt suiSite (restEnv .sui 200000000) {} false).outcomeAt scenario).result.toOption
  if final.running.seen.all fun scenario => given scenario ≠ some result then some result else none

/-- A GraphQL call whose reply mixes two blocks. -/
theorem two_scenarios : ∃ final outcome, run callStep suiCall writtenBetween = some final ∧
    final.running.ended = some outcome ∧ outcome.result.toOption = some mixedReply ∧
      ∀ scenario ∈ final.running.seen,
        ((serveAt suiSite (restEnv .sui 200000000) {} false).outcomeAt scenario).result.toOption ≠
          some mixedReply := by
  have mixed : unexplained writtenBetween = some mixedReply := by decide +kernel
  obtain ⟨final, done, later⟩ := Option.bind_eq_some_iff.mp mixed
  obtain ⟨outcome, ended, last⟩ := Option.bind_eq_some_iff.mp later
  obtain ⟨result, reply, checked⟩ := Option.bind_eq_some_iff.mp last
  dsimp only at checked
  split at checked
  · next none =>
      cases checked
      refine ⟨final, outcome, done, ended, reply, fun scenario member => ?_⟩
      simpa using List.all_eq_true.mp none scenario member
  · cases checked

end ProviderSimulator.Listeners
