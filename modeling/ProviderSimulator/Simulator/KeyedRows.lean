/-
**The method of every row can be a dictionary key.**

A JSON-RPC body may hold a list or an object as its method. The row of such a request is never finished: the entry of
the method is looked up in `responses` where the endpoint is targeted, the chain looks it up where it is not, and a
look-up with a key that has no hash raises. The other interfaces take their method from the path, from a text of the
body, or from the document.

* `serveAt_keyed` — every effect of every listener finishes a row with a method that can be a key;
* `Keyed.perform` — so do the operations on a log;
* `keyed_run` — **after every run of the simulator each log is `Keyed`**, which is what `get_history` needs;
* `history_run` — **so `get_history` answers its timeline after every run**, and never raises.
-/

import Mathlib.Tactic.Common
import ProviderSimulator.Control.History
import ProviderSimulator.Listeners.Totality
import ProviderSimulator.Simulator.Model

namespace ProviderSimulator.Lib.Flow

variable {S E W T U : Type} {Reads : Prop} {Allowed : W → Prop}

/-- A computation that leaves nothing, and what follows its value. -/
theorem Within.ofExcept_bind {first : Except E T} {next : T → Flow S E W U}
    (later : ∀ value, first = .ok value → (next value).Within Reads Allowed) :
    (Flow.ofExcept first >>= next).Within Reads Allowed := by
  cases first with
  | ok value => exact later value rfl
  | error error => exact .raised error

end ProviderSimulator.Lib.Flow

namespace ProviderSimulator.Listeners

open ProviderSimulator.Lib ProviderSimulator.Python ProviderSimulator.Domain
open ProviderSimulator.FaultPolicy (Verdict)
open ProviderSimulator.Chains (Parsed responsesOf)

/-! ### The effects of a request -/

/-- The effect finishes no row with a method that is no key. -/
def Effect.Keyed : Effect → Prop
  | .finalize method _ _ _ => method.hashable = true
  | _ => True

theorem Effect.Aside.keyed {effect : Effect} (aside : effect.Aside) : effect.Keyed := by
  cases effect with
  | finalize method label latency id => exact aside.elim
  | _ => trivial

/-- The part finishes no row with such a method. -/
abbrev KeyedPart {T : Type} (part : Serving T) : Prop := part.Within True Effect.Keyed

section

variable {site : Site} {env : Env} {listener : Hooks} {scenario : Scenario} {policy : Policy} {parsed : Parsed}
  {request : RawRequest}

theorem row_keyed {method : Value} (hashable : method.hashable = true) (label : Label) (latency id : Value)
    (sent : Except PyError ServeResult) :
    KeyedPart (do
      Flow.leave (.finalize method label latency id)
      Flow.ofExcept sent : Serving ServeResult) := by
  have finishes : (Effect.finalize method label latency id).Keyed := hashable
  exact .bind (.leave finishes) fun _ => .ofExcept _

theorem finishEarly_keyed (method : String) (label : Label) (result : ServeResult) :
    KeyedPart (finishEarly policy method label result) := row_keyed rfl _ _ _ _

theorem finish_keyed (named : (listener.requestMethod parsed).hashable = true) (decided : Decided) :
    KeyedPart (finish listener scenario policy parsed decided) := by
  rw [finish_eq]
  exact row_keyed named _ _ _ _

/-- The content of a request finishes no row. -/
def Plain (listener : Hooks) : Prop :=
  ∀ parsed scenario request, Apart (listener.buildContent parsed scenario request)

theorem answerVerdict_keyed (plain : Plain listener) (named : (listener.requestMethod parsed).hashable = true)
    (latency : Value) (verdict : Verdict) :
    KeyedPart (answerVerdict listener scenario policy latency parsed request verdict) := by
  have fault : ∀ label id waited, KeyedPart (do
      let result ← (Flow.ofExcept (listener.buildFault verdict parsed) : Serving ServeResult)
      finish listener scenario policy parsed { result, label, requestId := id, latency, waited }) :=
    fun label id waited => .bind (.ofExcept _) fun result => finish_keyed named _
  unfold answerVerdict
  cases verdict with
  | down => exact row_keyed named _ _ _ _
  | none =>
      have content : KeyedPart (listener.buildContent parsed scenario request) :=
        (plain parsed scenario request).mono (fun never => never.elim) fun _ aside => aside.keyed
      have succeeds : KeyedPart (succeed listener scenario latency parsed request) :=
        .bind content fun pair => .bind (.ofExcept _) fun result => .bind (.ofExcept _) fun label => .done _
      exact .bind succeeds fun decided => finish_keyed named decided
  | hang => exact fault _ _ _
  | drop dropAt => exact fault _ _ _
  | rateLimit body style => exact fault _ _ _
  | error status code message body => exact fault _ _ _

/-- **A request whose row shows a key.** -/
theorem answerParsed_keyed (plain : Plain listener) (named : (listener.requestMethod parsed).hashable = true) :
    KeyedPart (answerParsed listener env scenario policy parsed request) := by
  unfold answerParsed
  refine .bind (.ofExcept _) fun cfg => ?_
  dsimp only
  split
  · exact .bind (.ofExcept _) fun decided => finish_keyed named decided
  · exact .bind (.ofExcept _) fun verdict => answerVerdict_keyed plain named _ verdict

/-- An entry is not looked up with a key that has no hash. -/
theorem entryFor_unhashable (scenario : Scenario) (unhashable : (parsed.get "method").hashable = false) :
    ∃ error, entryFor scenario true (methodKey parsed) = .error error := by
  have looked : ∀ method : Value, method.hashable = false →
      ∃ error, getMethod (responsesOf scenario) (.value method) = .error error := by
    intro method unhashable
    unfold getMethod Value.getKey
    cases responsesOf scenario with
    | dict entries =>
        cases method with
        | list items => exact ⟨_, rfl⟩
        | dict other => exact ⟨_, rfl⟩
        | _ => cases unhashable
    | _ => exact ⟨_, rfl⟩
  obtain ⟨error, raised⟩ := looked _ unhashable
  have given : (parsed.get "method").isNone = false := by
    cases method : parsed.get "method" with
    | none =>
        rw [method] at unhashable
        cases unhashable
    | _ => rfl
  refine ⟨error, ?_⟩
  unfold entryFor methodKey methodCfg
  simp only [if_true, given, Bool.false_eq_true, if_false]
  rw [raised]
  rfl

/-- **A request whose method has no hash** finishes no row: the entry is not looked up, or the chain raises. -/
theorem answerParsed_raises (key : listener.methodKey = methodKey) (unhashable : (parsed.get "method").hashable = false)
    (content : ∃ error, listener.buildContent parsed scenario request = .raised error) :
    KeyedPart (answerParsed listener env scenario policy parsed request) := by
  unfold answerParsed
  rw [key]
  cases targeted : policy.targeted with
  | true =>
      obtain ⟨error, raised⟩ := entryFor_unhashable scenario unhashable
      rw [raised]
      exact .raised _
  | false =>
      obtain ⟨error, raised⟩ := content
      change KeyedPart (answerVerdict listener scenario policy _ parsed request .none)
      unfold answerVerdict succeed
      rw [raised]
      exact .raised _

end

/-! ### The listeners -/

section

variable {site : Site} {env : Env} {scenario : Scenario} {policy : Policy} {parsed : Parsed} {request : RawRequest}

theorem hooks_plain (site : Site) (env : Env) : Plain (hooks site env) := fun parsed scenario request =>
  hooks_content_apart site env parsed scenario request

theorem jsonRpc_keyed (json : site.endpoint.interface = .jsonrpc) (plain : parsed.graphql = none) :
    KeyedPart (answerParsed (hooks site env) env scenario policy parsed request) := by
  have requestMethod : (hooks site env).requestMethod parsed = parsed.getD "method" (.str "unknown") := by
    unfold hooks
    rw [json]
    cases site.endpoint.transport <;> rfl
  have key : (hooks site env).methodKey = methodKey := by
    unfold hooks
    rw [json]
    cases site.endpoint.transport <;> rfl
  cases hashable : (parsed.get "method").hashable with
  | true =>
      refine answerParsed_keyed (hooks_plain site env) ?_
      rw [requestMethod, hashable_get, hashable]
  | false =>
      exact answerParsed_raises key hashable (hooks_content_unhashable ⟨json, plain, hashable⟩ env scenario request)

/-- The fields of a Tendermint call. -/
theorem tendermint_named {parse : Parse} (gave : (if request.verb.toUpper = "GET" then Tendermint.parseGet site env request
      else Tendermint.parsePost site request) = .ok parse) {parsed : Parsed} (same : parse = .parsed parsed) :
    ∃ text, parsed.getD "method" (.str "*") = .str text := by
  have called : ∀ method params requestId, Tendermint.parsedCall site method params requestId = .ok parse →
      ∃ text, parsed.getD "method" (.str "*") = .str text := by
    intro method params requestId made
    obtain ⟨read, -, built⟩ := ok_of_bind made
    cases built
    cases same
    exact ⟨method, rfl⟩
  subst same
  split at gave
  · unfold Tendermint.parseGet at gave
    dsimp only at gave
    split at gave
    · cases gave
    · exact called _ _ _ gave
  · unfold Tendermint.parsePost at gave
    split at gave
    · cases gave
    · split at gave
      · cases gave
      · cases gave
      · split at gave
        · split at gave
          · cases gave
          · exact called _ _ _ gave
        · cases gave
      · cases gave

/-- **The answer to a parsed request**, on every interface. -/
theorem parsed_keyed (policy : Policy) (scenario : Scenario) :
    KeyedPart ((hooks site env).parseRequest request >>= parsedReply (hooks site env) env request scenario policy) := by
  have early : ∀ parse, (∀ parsed, parse = .parsed parsed →
      KeyedPart (answerParsed (hooks site env) env scenario policy parsed request)) →
      KeyedPart (parsedReply (hooks site env) env request scenario policy parse) := by
    intro parse later
    cases parse with
    | direct result method label => exact finishEarly_keyed method label result
    | parseError text => exact finishEarly_keyed _ _ _
    | parsed parsed => exact later parsed rfl
  cases interface : site.endpoint.interface with
  | jsonrpc =>
      have parses : (hooks site env).parseRequest request = Flow.ofExcept (JsonRpc.parseRequest site request) := by
        unfold hooks
        rw [interface]
        cases site.endpoint.transport <;> rfl
      rw [parses]
      refine .ofExcept_bind fun parse gave => early parse fun parsed same => ?_
      subst same
      exact jsonRpc_keyed interface (jsonRpc_parsed gave)
  | rest =>
      have shape : hooks site env = Rest.hooks site env := by
        unfold hooks
        rw [interface]
      refine .bind ((hooks_parse_aside site env request).mono id fun _ aside => aside.keyed) fun parse => ?_
      refine early parse fun parsed _ => answerParsed_keyed (hooks_plain site env) ?_
      rw [shape]
      rfl
  | tendermintrpc =>
      have shape : hooks site env = Tendermint.hooks site env := by
        unfold hooks
        rw [interface]
      have parses : (hooks site env).parseRequest request = Flow.ofExcept (if request.verb.toUpper = "GET" then
          Tendermint.parseGet site env request else Tendermint.parsePost site request) := by
        rw [shape]
        rfl
      rw [parses]
      refine .ofExcept_bind fun parse gave => early parse fun parsed same => ?_
      refine answerParsed_keyed (hooks_plain site env) ?_
      obtain ⟨text, named⟩ := tendermint_named gave same
      rw [shape]
      change (parsed.getD "method" (.str "*")).hashable = true
      rw [named]
      rfl
  | graphql =>
      have shape : hooks site env = Graphql.hooks site env := by
        unfold hooks
        rw [interface]
      rw [hooks_parse_graphql site env request interface]
      unfold Graphql.parseRequest
      split
      · exact .raised _
      · rw [Flow.bind_assoc]
        refine .bind ((graphql_reply_leaves site _ _).mono id fun _ aside => aside.keyed) fun result => ?_
        exact finishEarly_keyed "unknown" .error result
      · refine early (.parsed _) fun parsed same => answerParsed_keyed (hooks_plain site env) ?_
        cases same
        rw [shape]
        rfl
  | grpc =>
      have shape : hooks site env = Grpc.hooks site env := by
        unfold hooks
        rw [interface]
      have parses : (hooks site env).parseRequest request = .done
          (.parsed { fields := [("method", .str request.path)], message := request.message }) := by
        rw [shape]
        rfl
      rw [parses]
      refine early (.parsed _) fun parsed same => answerParsed_keyed (hooks_plain site env) ?_
      cases same
      rw [shape]
      rfl

theorem answer_keyed (scenario : Scenario) : KeyedPart (answer site (hooks site env) env request scenario) := by
  unfold answer
  refine .bind (.ofExcept _) fun active => ?_
  refine .bind (.leaveAll fun effect member => ?_) fun _ => .bind (.ofExcept _) fun resolved => ?_
  · cases active with
    | false => cases member
    | true =>
        cases List.mem_singleton.mp member
        trivial
  · dsimp only
    split
    · exact finishEarly_keyed _ _ _
    · exact parsed_keyed _ _

/-- **Every listener finishes its rows with methods that can be keys.** -/
theorem serveAt_keyed (site : Site) (env : Env) (request : RawRequest) (arrived : Bool) :
    KeyedPart (serveAt site env request arrived) := by
  have arrives : KeyedPart (arrival (hooks site env) request arrived) := by
    unfold arrival
    refine .bind (.leaveAll ?_) fun _ => .bind (.leaveAll ?_) fun _ => .leaveAll ?_
    · intro effect member
      cases arrived with
      | true => cases member
      | false =>
          cases List.mem_singleton.mp member
          trivial
    · intro effect member
      obtain ⟨body, -, rfl⟩ := List.mem_map.mp member
      trivial
    · intro effect member
      obtain ⟨path, -, rfl⟩ := List.mem_map.mp member
      trivial
  have serves : KeyedPart (serve site (hooks site env) env request arrived) :=
    .bind arrives fun _ => .read trivial fun scenario => answer_keyed scenario
  unfold serveAt
  refine .bind serves fun result => ?_
  split
  · exact .done _
  · exact .done _

end

end ProviderSimulator.Listeners

namespace ProviderSimulator.Domain.CallLog

open ProviderSimulator.Lib ProviderSimulator.Python

/-! ### The operations on a log -/

/-- The operation writes no method that is no key. -/
def Op.Keyed : Op → Prop
  | .push _ method _ _ _ _ _ _ => method.hashable = true
  | .finalize _ _ outcome => outcome.method.hashable = true
  | _ => True

namespace Keyed

variable {log : CallLog}

theorem new (pool pid name : String) (historyMax : ℕ) : (CallLog.new pool pid name historyMax).Keyed := by
  intro row member
  cases member

theorem addRow (keyed : log.Keyed) {row : Row} (hashable : row.method.hashable = true) : (log.addRow row).Keyed := by
  intro other member
  rcases List.mem_append.mp member with old | new
  · exact keyed other old
  · rw [List.mem_singleton.mp new]
    exact hashable

theorem setRow (keyed : log.Keyed) {ref : ℕ} {row : Row} (hashable : row.method.hashable = true) :
    ∀ other ∈ log.rows.set ref row, other.method.hashable = true := by
  intro other member
  rcases List.mem_or_eq_of_mem_set member with old | rfl
  · exact keyed other old
  · exact hashable

theorem finalize (keyed : log.Keyed) {outcome : Outcome} (hashable : outcome.method.hashable = true) (stamp : Stamp)
    (ref : ℕ) (row : Row) : (log.finalize stamp ref row outcome).Keyed := by
  unfold CallLog.finalize
  dsimp only
  split
  · exact keyed.setRow hashable
  · split
    · exact keyed.setRow hashable
    · exact keyed.setRow hashable

/-- **One operation.** -/
theorem perform (keyed : log.Keyed) (codec : Codec) {op : Op} (writes : op.Keyed) : (log.perform codec op).Keyed := by
  have rewrites : ∀ (ref : ℕ) (write : Row → CallLog),
      (∀ row, log.rows[ref]? = some row → (write row).Keyed) → (((log.rows[ref]?).map write).getD log).Keyed := by
    intro ref write written
    cases found : log.rows[ref]? with
    | none => exact keyed
    | some row => exact written row found
  cases op with
  | recordArrival stamp site lavaHeaders headers deadline => exact keyed.addRow rfl
  | push stamp method status latencyMs site requestId lavaHeaders headers => exact keyed.addRow writes
  | finalize stamp ref outcome => exact rewrites ref _ fun row _ => keyed.finalize writes stamp ref row
  | setGrpcStatus ref status =>
      exact rewrites ref _ fun row found => keyed.setRow (keyed row (List.mem_of_getElem? found))
  | recordBody ref body =>
      exact rewrites ref _ fun row found => keyed.setRow (keyed row (List.mem_of_getElem? found))
  | recordPath ref path =>
      exact rewrites ref _ fun row found => keyed.setRow (keyed row (List.mem_of_getElem? found))
  | clear => exact keyed

end Keyed

end ProviderSimulator.Domain.CallLog

namespace ProviderSimulator.Simulator

open ProviderSimulator.Lib ProviderSimulator.Python ProviderSimulator.Domain ProviderSimulator.Control
open ProviderSimulator.Listeners (RawRequest Effect serveAt serveAt_keyed)

/-! ### Whole runs -/

/-- Every log has rows whose method can be a key. -/
def State.Keyed (state : State) : Prop := ∀ key, (state.logs key).Keyed

section

variable {world : World} {state : State}

theorem logAfter_keyed (codec : Codec) (stamp : Stamp) (ref : ℕ) {log : CallLog} (keyed : log.Keyed) {effect : Effect}
    (allowed : effect.Keyed) : (logAfter codec stamp ref log effect).Keyed := by
  cases effect with
  | recordBody body => exact keyed.perform codec trivial
  | recordPath path => exact keyed.perform codec trivial
  | finalize method label latency id => exact keyed.perform codec allowed
  | _ => exact keyed

theorem logsAfter_keyed (codec : Codec) (stamp : Stamp) (ref : ℕ) {effects : List Effect}
    (allowed : ∀ effect ∈ effects, effect.Keyed) {log : CallLog} (keyed : log.Keyed) :
    (effects.foldl (logAfter codec stamp ref) log).Keyed := by
  induction effects generalizing log with
  | nil => exact keyed
  | cons effect rest ih =>
      refine ih (fun later member => allowed later (List.mem_cons_of_mem _ member)) ?_
      exact logAfter_keyed codec stamp ref keyed (allowed effect List.mem_cons_self)

/-- A write to one log. -/
theorem State.Keyed.update (keyed : state.Keyed) {key : ProviderKey} {log : CallLog} (written : log.Keyed)
    (other : ProviderKey) : (Function.update state.logs key log other).Keyed := by
  by_cases same : other = key
  · subst same
    rw [Function.update_self]
    exact written
  · rw [Function.update_of_ne same]
    exact keyed other

/-- **A request whose head can be read.** A request whose head raises keeps the logs `Keyed` where its own flow does. -/
theorem serve_keyed (stalled : ∀ site env request error, Listeners.KeyedPart (world.stalled site env request error))
    (keyed : state.Keyed) (opened : OpenRequest) (request : RawRequest) (drawn : Drawn) :
    (state.serve world opened request drawn).1.Keyed := by
  have flow : Listeners.KeyedPart (flowOf world state.heads opened.provider opened.endpoint
      (state.stored opened.provider.key) request drawn) := by
    unfold flowOf
    dsimp only
    split
    · exact serveAt_keyed _ _ _ _
    · split
      · exact serveAt_keyed _ _ _ _
      · exact stalled _ _ _ _
  exact keyed.update (logsAfter_keyed _ _ _ (flow.effects _) (keyed _))

variable (world) in
theorem resetEach_keyed (call : ResetCall) (providers : List Provider) (keyed : state.Keyed) (wishes : List Wish) :
    (resetEach world.layout call providers state wishes).1.Keyed := by
  have resets : ∀ (state : State) provider, state.Keyed → (state.resetOne call provider).Keyed := by
    intro state provider keyed
    unfold State.resetOne
    split
    · exact keyed
    · exact keyed
  have clears : ∀ (state : State) provider, state.Keyed → (state.clearOne call provider).Keyed := by
    intro state provider keyed
    unfold State.clearOne
    split
    · exact keyed.update (keyed provider.key)
    · exact keyed
  induction providers generalizing state wishes with
  | nil => exact keyed
  | cons provider rest ih =>
      unfold resetEach
      dsimp only
      split
      · exact resets state provider keyed
      · exact ih (clears _ provider (resets state provider keyed)) _

theorem performReset_keyed (call : ResetCall) (pool : Value) (settlePorts : List Wish → String) (keyed : state.Keyed) :
    (state.performReset world call pool settlePorts).1.Keyed := by
  unfold State.performReset
  split
  · exact keyed
  · next scope _ =>
      dsimp only
      have moved : (if call.scenario then { state with heads := resetHeads scope.chains state.heads } else state).Keyed := by
        split
        · exact keyed
        · exact keyed
      have each := resetEach_keyed world call scope.providers moved []
      split
      · next ended =>
          rw [ended] at each
          exact each
      · next ended =>
          rw [ended] at each
          exact each

/-- **One event.** -/
theorem react_keyed (stalled : ∀ site env request error, Listeners.KeyedPart (world.stalled site env request error))
    (keyed : state.Keyed) (event : Event) : (react world state event).1.Keyed := by
  -- The log of one provider, after an operation that writes no method.
  have writes : ∀ key op, CallLog.Op.Keyed op → (state.onLog world key op).Keyed :=
    fun key op plain => keyed.update ((keyed key).perform world.codec plain)
  cases event with
  | arrive key endpoint stamp headers deadline =>
      simp only [react]
      split
      · exact keyed
      · split
        · exact keyed
        · exact writes _ _ trivial
  | serve place request drawn =>
      simp only [react]
      split
      · exact keyed
      · exact serve_keyed stalled keyed _ request drawn
  | statusSent place status =>
      simp only [react]
      split
      · exact keyed
      · exact writes _ _ trivial
  | reset call pool settlePorts => exact performReset_keyed call pool settlePorts keyed
  | _ => exact keyed

/-- **After every run each log is keyed.** -/
theorem keyed_run (stalled : ∀ site env request error, Listeners.KeyedPart (world.stalled site env request error))
    (keyed : state.Keyed) (events : List Event) : (after (react world) state events).Keyed :=
  after_invariant State.Keyed (fun _ event holds => react_keyed stalled holds event) keyed events

/-- **After every run `get_history` answers.** From empty logs, whatever has happened since, a query with a readable
length answers the timeline of the matching rows. -/
theorem history_run (stalled : ∀ site env request error, Listeners.KeyedPart (world.stalled site env request error))
    (empty : ∀ key, (state.logs key).rows = []) (events : List Event) (language : Control.QueryHost)
    {query : Control.Query} (good : ¬ Control.BadLength world.host query) :
    ∃ filter whole, Control.Answers world.host language world.layout.registry (after (react world) state events).logs
      query filter whole := by
  have keyed : state.Keyed := by
    intro key row member
    rw [empty key] at member
    cases member
  exact Control.answers_of_keyed world.host language world.layout.registry _
    (fun provider _ => keyed_run stalled keyed events provider.key) good

end

end ProviderSimulator.Simulator
