/-
**Reading after a write, on Sui.**

A provider remembers the digests that it executed, each with the time of its first run, and a lookup with a lag answers
null until the lag is over. The memory is read at the start of a request and filled at its end, so that a request does
not see what it executes itself.

* `executed_foldl` — what a request leaves of its effects in the memory;
* `serve_remembers` — a request that no fault and no entry touches remembers what its roots execute;
* `Run.executed_eq` — in every run, the memory is the one of the executions since the last reset;
* `read_after_write` — **a digest is found if and only if** it was executed, few enough others came after it, and the
  lag is over.
-/

import Mathlib.Tactic.Common
import ProviderSimulator.Chains.SuiCheckpoints
import ProviderSimulator.Graphql.Merge
import ProviderSimulator.Lib.Recent
import ProviderSimulator.Simulator.Model

namespace ProviderSimulator.Simulator

open ProviderSimulator.Lib ProviderSimulator.Python ProviderSimulator.Domain ProviderSimulator.Control
open ProviderSimulator.FaultPolicy ProviderSimulator.Chains
open ProviderSimulator.Listeners (RawRequest ServeResult Serving Env Effect serveAt verdictFor)
open ProviderSimulator.GraphqlDocument (Library RootField parseGraphqlRequest)

/-! ### What a request remembers -/

/-- The digest that an effect remembers, with its time. -/
def remembered : Effect → Option (String × ℚ)
  | .rememberExecuted digest time => some (digest, time)
  | _ => none

theorem rememberExecuted_executed (state : ProviderState) (digest : String) (time : ℚ) :
    (state.rememberExecuted digest time).executed = Recent.remember executedMemoryCap state.executed (digest, time) := by
  unfold ProviderState.rememberExecuted Recent.remember
  split
  · rfl
  · rfl

/-- **The memory after some effects.** -/
theorem executed_foldl (effects : List Effect) (state : ProviderState) :
    (effects.foldl providerAfter state).executed =
      (effects.filterMap remembered).foldl (Recent.remember executedMemoryCap) state.executed := by
  induction effects generalizing state with
  | nil => rfl
  | cons effect rest ih =>
      rw [List.foldl_cons, ih]
      cases effect with
      | rememberExecuted digest time =>
          have here : (Effect.rememberExecuted digest time :: rest).filterMap remembered =
              (digest, time) :: rest.filterMap remembered := rfl
          rw [here, List.foldl_cons, ← rememberExecuted_executed]
          rfl
      | _ =>
          rw [List.filterMap_cons_none rfl]
          rfl

section

variable {S T : Type} {scenario : Scenario}

/-- What a part of the flow remembers. -/
def marks (scenario : Scenario) (flow : Serving T) : List (String × ℚ) :=
  (flow.outcomeAt scenario).effects.filterMap remembered

theorem marks_bind {first : Serving S} {next : S → Serving T} (found : S)
    (gave : (first.outcomeAt scenario).result = .ok found) :
    marks scenario (first >>= next) = marks scenario first ++ marks scenario (next found) := by
  unfold marks
  rw [Flow.outcomeAt_bind]
  unfold Flow.Outcome.followedBy
  rw [gave]
  exact List.filterMap_append

theorem marks_ofExcept (result : Except PyError T) : marks scenario (Flow.ofExcept result) = [] := by
  unfold marks
  rw [Flow.outcomeAt_ofExcept]
  rfl

/-- A computation that leaves nothing. -/
theorem marks_ofExcept_bind {first : Except PyError S} {next : S → Serving T} {found : S} (gave : first = .ok found) :
    marks scenario (Flow.ofExcept first >>= next) = marks scenario (next found) := by
  rw [gave]
  rfl

/-- Effects that remember nothing. -/
theorem marks_leaveAll_bind {effects : List Effect} {next : Unit → Serving T}
    (silent : effects.filterMap remembered = []) :
    marks scenario (Flow.leaveAll effects >>= next) = marks scenario (next ()) := by
  rw [marks_bind () (by rw [Flow.outcomeAt_leaveAll])]
  unfold marks
  rw [Flow.outcomeAt_leaveAll, silent, List.nil_append]

/-- What follows remembers nothing. -/
theorem marks_bind_of_silent {first : Serving S} {next : S → Serving T} (silent : ∀ found, marks scenario (next found) = []) :
    marks scenario (first >>= next) = marks scenario first := by
  unfold marks at silent ⊢
  rw [Flow.outcomeAt_bind]
  unfold Flow.Outcome.followedBy
  cases (first.outcomeAt scenario).result with
  | error error => rfl
  | ok found => exact List.filterMap_append.trans (by rw [silent, List.append_nil])

end

/-- No fault applies to a request, and `responses` has no entry. -/
structure Untouched (scenario : Scenario) (endpoint : Endpoint) (env : Env) : Prop where
  responses : responsesOf scenario = .dict []
  verdict : ∃ targeted mode, resolveMode scenario endpoint env.count = .ok (targeted, mode) ∧
    verdictFor targeted mode scenario env.roll = .ok .none

/-- A request as the chain gets it. -/
def lookup (graphql : GraphqlDocument.Request) (executed : Dict String ℚ) (now : ℚ) : Parsed where
  fields := [("method", .str graphql.method), ("request_id", graphql.requestId)]
  graphql := some graphql
  executedAt := executed
  now := now

section

variable {site : Listeners.Site} {env : Env} {request : RawRequest} {graphql : GraphqlDocument.Request} {scenario : Scenario}
  {content : Content}

theorem marks_finish {hooks : Listeners.Hooks} {policy : Listeners.Policy} {parsed : Parsed} {decided : Listeners.Decided}
    (found : Scenario) : marks found (Listeners.finish hooks scenario policy parsed decided) = [] := by
  unfold Listeners.finish
  dsimp only
  rw [marks_bind () rfl, marks_ofExcept]
  rfl

/-- The content of a request remembers what the chain executed. -/
theorem marks_buildContent
    (gave : Chains.buildSuccess site.host site.reader site.chain site.endpoint.interface
      (lookup graphql env.executed env.now) scenario env.quirks env.head = .ok content) (found : Scenario) :
    marks found (Listeners.Graphql.buildContent site env (lookup graphql [] 0) scenario) =
      content.executedNow.map fun digest => (digest, env.now) := by
  unfold Listeners.Graphql.buildContent
  change marks found (Listeners.chainContent site env (lookup graphql env.executed env.now) scenario >>= _) = _
  have chain : (Listeners.chainContent site env (lookup graphql env.executed env.now) scenario).outcomeAt found =
      ⟨content.rewritten.toList.map .rewriteDefault, .ok content⟩ := by
    unfold Listeners.chainContent
    rw [gave, Flow.ofExcept_ok, Flow.done_bind, Flow.outcomeAt_bind, Flow.outcomeAt_leaveAll]
    exact congrArg (fun effects => (⟨effects, .ok content⟩ : Flow.Outcome PyError Effect Content)) (List.append_nil _)
  have silent : (content.rewritten.toList.map Effect.rewriteDefault).filterMap remembered = [] := by
    cases content.rewritten with
    | none => rfl
    | some written => rfl
  have kept : ∀ digests : List String, (digests.map fun digest => Effect.rememberExecuted digest env.now).filterMap
      remembered = digests.map fun digest => (digest, env.now) := by
    intro digests
    rw [List.filterMap_map]
    exact congrFun List.filterMap_eq_map digests
  rw [marks_bind content (by rw [chain])]
  unfold marks
  rw [chain, silent, List.nil_append, Flow.outcomeAt_bind, Flow.outcomeAt_leaveAll]
  refine Eq.trans ?_ (kept content.executedNow)
  exact congrArg _ (List.append_nil _)

/-- **What a request remembers** that no fault and no entry touches. -/
theorem serve_remembers (graphqlEndpoint : site.endpoint.interface = .graphql)
    (accepted : parseGraphqlRequest site.host site.reader request.body = .ok graphql)
    (quiet : Untouched scenario site.endpoint env)
    (gave : Chains.buildSuccess site.host site.reader site.chain .graphql
      (lookup graphql env.executed env.now) scenario env.quirks env.head = .ok content) :
    marks scenario (serveAt site env request true) = content.executedNow.map fun digest => (digest, env.now) := by
  obtain ⟨responses, targeted, mode, resolved, verdict⟩ := quiet
  obtain ⟨active, window⟩ : ∃ active, windowActive scenario site.endpoint = .ok active := by
    unfold resolveMode at resolved
    obtain ⟨_, -, later⟩ := ok_of_bind resolved
    obtain ⟨active, window, -⟩ := ok_of_bind later
    exact ⟨active, window⟩
  have up : (targeted && mode.eqText "down") = false := by
    cases targeted with
    | false => rfl
    | true =>
        unfold verdictFor ladder at verdict
        by_cases down : mode.eqText "down" = true
        · rw [if_pos rfl, if_pos down] at verdict
          cases verdict
        · simpa using down
  have parses : Listeners.Graphql.parseRequest site request = .done (.parsed (lookup graphql [] 0)) := by
    unfold Listeners.Graphql.parseRequest
    rw [accepted]
    rfl
  have isHooks : Listeners.hooks site env = Listeners.Graphql.hooks site env := by
    unfold Listeners.hooks
    rw [graphqlEndpoint]
  have entry : Listeners.entryFor scenario targeted ((Listeners.Graphql.hooks site env).methodKey (lookup graphql [] 0)) =
      .ok [] := by
    unfold Listeners.entryFor Listeners.methodCfg
    rw [responses]
    split
    · rfl
    · rfl
  have consumes : (if active then [Effect.consumeFail] else []).filterMap remembered = [] := by
    cases active with
    | true => rfl
    | false => rfl
  unfold serveAt Listeners.serve
  rw [isHooks, marks_bind_of_silent]
  · change marks scenario (Listeners.answer site (Listeners.Graphql.hooks site env) env request scenario) = _
    unfold Listeners.answer
    rw [marks_ofExcept_bind window, marks_leaveAll_bind consumes, marks_ofExcept_bind resolved]
    dsimp only
    rw [up, if_neg (by decide)]
    change marks scenario (Listeners.Graphql.parseRequest site request >>= _) = _
    rw [parses, Flow.done_bind]
    dsimp only
    have policies : (Listeners.policy scenario targeted mode).targeted = targeted ∧
        (Listeners.policy scenario targeted mode).mode = mode := by
      unfold Listeners.policy
      cases targeted with
      | true => exact ⟨rfl, rfl⟩
      | false => exact ⟨rfl, rfl⟩
    unfold Listeners.answerParsed
    rw [policies.1, policies.2, marks_ofExcept_bind entry]
    have unshadowed : Listeners.shadows [] = false := rfl
    simp only [unshadowed, Bool.false_eq_true, if_false, List.isEmpty_nil, if_true]
    rw [marks_ofExcept_bind verdict]
    unfold Listeners.answerVerdict Listeners.succeed
    dsimp only
    rw [marks_bind_of_silent fun decided => marks_finish scenario, marks_bind_of_silent, ← marks_buildContent _ scenario]
    · rfl
    · rw [graphqlEndpoint]
      exact gave
    · rintro ⟨status, body⟩
      rw [marks_bind_of_silent]
      · exact marks_ofExcept _
      · intro result
        rw [marks_bind_of_silent fun label => rfl]
        exact marks_ofExcept _
  · intro found
    split
    · rfl
    · rfl

end

/-! ### The roots of a request -/

section

variable {host : Host} {reader : GraphqlDocument.Reader} {graphql : GraphqlDocument.Request} {request : Parsed} {head : ℤ}
  {blocksBehind : Value} {quirks : Quirks}

/-- The digest that a root executes. -/
def executes (host : Host) (root : RootField) : Option String :=
  if root.name = "executeTransaction" then (Sui.transactionData host root).map (Sui.transactionDigest host) else none

/-- The answer to a root that no entry touches. -/
theorem answer_free (root : RootField) :
    Sui.answer host reader root (.dict []) graphql request head blocksBehind quirks =
      if root.name = "executeTransaction" then Sui.execute host reader root graphql
      else (do
        let value ← Sui.stub host root graphql request head blocksBehind quirks
        pure { value := ← reader.project value root.selection graphql }) := rfl

theorem executed_of_answer {root : RootField} {given : Sui.Answer}
    (gave : Sui.answer host reader root (.dict []) graphql request head blocksBehind quirks = .ok given) :
    given.executed = executes host root := by
  rw [answer_free] at gave
  unfold executes
  by_cases mutation : root.name = "executeTransaction"
  · rw [if_pos mutation] at gave ⊢
    unfold Sui.execute at gave
    cases data : Sui.transactionData host root with
    | none =>
        rw [data] at gave
        obtain ⟨error, -, whole⟩ := ok_of_bind gave
        cases whole
        rfl
    | some bytes =>
        rw [data] at gave
        obtain ⟨value, -, whole⟩ := ok_of_bind gave
        cases whole
        rfl
  · rw [if_neg mutation] at gave ⊢
    obtain ⟨value, -, later⟩ := ok_of_bind gave
    obtain ⟨shaped, -, whole⟩ := ok_of_bind later
    cases whole
    rfl

theorem executed_of_add {reply added : Sui.Reply} {root : RootField} {given : Sui.Answer}
    (adds : reply.add root given = .ok added) : added.executed = reply.executed ++ given.executed.toList := by
  unfold Sui.Reply.add at adds
  by_cases quiet : given.error.isNone = true
  · simp only [if_pos quiet] at adds
    cases adds
    rfl
  · simp only [if_neg quiet] at adds
    obtain ⟨errors, -, whole⟩ := ok_of_bind adds
    cases whole
    rfl

/-- One root of the loop, and then the others. -/
theorem answerAll_cons {root : RootField} {rest : List RootField} {reply result : Sui.Reply}
    (gave : Sui.answerAll host reader (.dict []) graphql request head blocksBehind quirks (root :: rest) reply = .ok result) :
    ∃ given added, Sui.answer host reader root (.dict []) graphql request head blocksBehind quirks = .ok given ∧
      reply.add root given = .ok added ∧
      Sui.answerAll host reader (.dict []) graphql request head blocksBehind quirks rest added = .ok result := by
  unfold Sui.answerAll at gave
  obtain ⟨entry, isEntry, afterEntry⟩ := ok_of_bind gave
  cases isEntry
  obtain ⟨given, answers, afterAnswer⟩ := ok_of_bind afterEntry
  obtain ⟨added, adds, later⟩ := ok_of_bind afterAnswer
  exact ⟨given, added, answers, adds, later⟩

/-- **The roots execute their digests, one after the other.** -/
theorem answerAll_executed {roots : List RootField} {reply result : Sui.Reply}
    (gave : Sui.answerAll host reader (.dict []) graphql request head blocksBehind quirks roots reply = .ok result) :
    result.executed = reply.executed ++ roots.filterMap (executes host) := by
  induction roots generalizing reply with
  | nil =>
      cases gave
      exact (List.append_nil _).symm
  | cons root rest ih =>
      obtain ⟨given, added, answers, adds, later⟩ := answerAll_cons gave
      rw [ih later, executed_of_add adds, executed_of_answer answers, List.append_assoc, List.filterMap_cons]
      cases executes host root with
      | none => rfl
      | some digest => rfl

/-- A root whose response key no later root has keeps its value. -/
theorem answerAll_get {roots : List RootField} {reply result : Sui.Reply} {key : String}
    (last : ∀ root ∈ roots, root.responseKey ≠ key)
    (gave : Sui.answerAll host reader (.dict []) graphql request head blocksBehind quirks roots reply = .ok result) :
    Dict.get result.data (.text key) = Dict.get reply.data (.text key) := by
  induction roots generalizing reply with
  | nil =>
      cases gave
      rfl
  | cons root rest ih =>
      obtain ⟨given, added, -, adds, later⟩ := answerAll_cons gave
      have other : Key.text root.responseKey ≠ .text key := fun same => last root List.mem_cons_self (Key.text.inj same)
      rw [ih (fun root member => last root (List.mem_cons_of_mem _ member)) later, Sui.data_of_add adds,
        Dict.get_set_of_ne _ other]

/-- The value of a root in the data. -/
theorem answerAll_value {earlier later : List RootField} {root : RootField} {reply result : Sui.Reply}
    (last : ∀ other ∈ later, other.responseKey ≠ root.responseKey)
    (gave : Sui.answerAll host reader (.dict []) graphql request head blocksBehind quirks (earlier ++ root :: later) reply =
      .ok result) :
    ∃ given, Sui.answer host reader root (.dict []) graphql request head blocksBehind quirks = .ok given ∧
      Dict.get result.data (.text root.responseKey) = some given.value := by
  induction earlier generalizing reply with
  | nil =>
      obtain ⟨given, added, answers, adds, rest⟩ := answerAll_cons gave
      refine ⟨given, answers, ?_⟩
      rw [answerAll_get last rest, Sui.data_of_add adds, Dict.get_set_self]
  | cons first rest ih =>
      obtain ⟨-, added, -, -, gave⟩ := answerAll_cons gave
      exact ih gave

/-- A projection is null if and only if the value is. -/
theorem project_eq_none_iff {library : Library} {room : ℕ} {value shaped : Value}
    {selection : Option (List GraphqlDocument.Selection)}
    (gave : (Sui.roomyReader library room).project value selection graphql = .ok shaped) :
    shaped = .none ↔ value = .none := by
  change GraphqlDocument.project library graphql room value selection = .ok shaped at gave
  cases room with
  | zero =>
      unfold GraphqlDocument.project at gave
      cases gave
  | succ room =>
      cases selection with
      | none =>
          unfold GraphqlDocument.project at gave
          cases gave
          rfl
      | some selected =>
          cases value with
          | list items =>
              unfold GraphqlDocument.project at gave
              obtain ⟨all, -, whole⟩ := ok_of_bind gave
              cases whole
              exact ⟨nofun, nofun⟩
          | dict entries =>
              unfold GraphqlDocument.project at gave
              obtain ⟨all, -, whole⟩ := ok_of_bind gave
              cases whole
              exact ⟨nofun, nofun⟩
          | _ =>
              unfold GraphqlDocument.project at gave
              cases gave
              rfl

end

/-! ### Runs -/

/-- A GraphQL listener of a Sui provider, with the functions of the program. -/
structure IsSui (site : Listeners.Site) : Prop where
  interface : site.endpoint.interface = .graphql
  chain : site.chain = .sui ∨ site.chain = .suit
  reader : ∃ library room, site.reader = Sui.roomyReader library room

theorem IsSui.buildSuccess_eq {site : Listeners.Site} (sui : IsSui site) (request : Parsed) (scenario : Scenario)
    (quirks : Quirks) (head : ℤ) :
    Chains.buildSuccess site.host site.reader site.chain .graphql request scenario quirks head =
      Sui.buildSuccess site.host site.reader request scenario quirks head := by
  rcases sui.chain with same | same
  · rw [same]
    rfl
  · rw [same]
    rfl

/-- A request is answered: its body is read, no fault and no entry touches it, and the chain gives its content. -/
structure Answered (site : Listeners.Site) (state : ProviderState) (request : RawRequest) (drawn : Drawn) (head : ℤ)
    (graphql : GraphqlDocument.Request) (content : Content) : Prop where
  accepted : parseGraphqlRequest site.host site.reader request.body = .ok graphql
  quiet : Untouched state.scenario.values site.endpoint (envOf state drawn head)
  content : Sui.buildSuccess site.host site.reader (lookup graphql state.executed drawn.now) state.scenario.values
    state.quirks head = .ok content

/-- The provider after a request. -/
def afterRequest (site : Listeners.Site) (state : ProviderState) (request : RawRequest) (drawn : Drawn) (head : ℤ) :
    ProviderState :=
  ((serveAt site (envOf state drawn head) request true).outcomeAt state.scenario.values).effects.foldl providerAfter state

/-- The executions of a request. -/
def executions (host : Host) (graphql : GraphqlDocument.Request) (now : ℚ) : List (String × ℚ) :=
  (graphql.roots.filterMap (executes host)).map fun digest => (digest, now)

/-- **The runs of one provider**, with the executions since the last reset. Requests are answered one after the other, and
between them the scenario and the quirks are written in any way, or reset. -/
inductive Run (site : Listeners.Site) (provider : Provider) : List (String × ℚ) → ProviderState → Prop
  | fresh : Run site provider [] (ProviderState.fresh site.chain)
  | request {history : List (String × ℚ)} {state : ProviderState} (run : Run site provider history state)
      (request : RawRequest) (drawn : Drawn) (head : ℤ) {graphql : GraphqlDocument.Request} {content : Content}
      (answered : Answered site state request drawn head graphql content) :
      Run site provider (history ++ executions site.host graphql drawn.now) (afterRequest site state request drawn head)
  | write {history : List (String × ℚ)} {state : ProviderState} (run : Run site provider history state)
      (scenario : ScenarioConfig) (lastWriteAt : Option ℚ) (quirks : Quirks) (failCount : ℕ) :
      Run site provider history { state with scenario, lastWriteAt, quirks, failCount }
  | reset {history : List (String × ℚ)} {state : ProviderState} (run : Run site provider history state) :
      Run site provider [] (resetProvider provider state)

section

variable {site : Listeners.Site} {provider : Provider} {history : List (String × ℚ)} {state : ProviderState}

/-- **One request.** -/
theorem afterRequest_executed (sui : IsSui site) {request : RawRequest} {drawn : Drawn} {head : ℤ}
    {graphql : GraphqlDocument.Request} {content : Content} (answered : Answered site state request drawn head graphql content) :
    (afterRequest site state request drawn head).executed =
      (executions site.host graphql drawn.now).foldl (Recent.remember executedMemoryCap) state.executed := by
  have gave := answered.content
  have now : content.executedNow = graphql.roots.filterMap (executes site.host) := by
    unfold Sui.buildSuccess at gave
    obtain ⟨reply, answers, later⟩ := ok_of_bind gave
    rw [answered.quiet.responses] at answers
    have executed := answerAll_executed answers
    rw [List.nil_append] at executed
    rw [← executed]
    by_cases quiet : reply.errors.isEmpty = true
    · simp only [if_pos quiet] at later
      cases later
      rfl
    · simp only [if_neg quiet] at later
      cases later
      rfl
  have marked := serve_remembers sui.interface answered.accepted answered.quiet ((sui.buildSuccess_eq _ _ _ _).trans gave)
  unfold marks at marked
  unfold afterRequest executions
  rw [executed_foldl, marked, now]
  rfl

/-- **The memory is the one of the executions since the last reset.** -/
theorem Run.executed_eq (sui : IsSui site) (run : Run site provider history state) :
    state.executed = history.foldl (Recent.remember executedMemoryCap) [] := by
  induction run with
  | fresh => rfl
  | request run request drawn head answered ih =>
      rw [afterRequest_executed sui answered, ih, List.foldl_append]
  | write run scenario lastWriteAt quirks failCount ih => exact ih
  | reset run ih => rfl

/-! ### Lookups -/

/-- The digest was executed since the last reset, fewer digests were remembered anew after it than the memory keeps, and
the lag in milliseconds is over. -/
def Found (history : List (String × ℚ)) (digest : String) (lag now : ℚ) : Prop :=
  digest ∈ Dict.keys history ∧ ∃ before ran after,
    Recent.newcomers executedMemoryCap history = before ++ (digest, ran) :: after ∧ digest ∉ Dict.keys after ∧
      after.length < executedMemoryCap ∧ lag ≤ (now - ran) * 1000

theorem found_iff {digest : String} {lag now : ℚ} :
    Found history digest lag now ↔
      ∃ ran, Dict.get (history.foldl (Recent.remember executedMemoryCap) []) digest = some ran ∧
        lag / 1000 ≤ now - ran := by
  have scale : ∀ ran : ℚ, lag ≤ (now - ran) * 1000 ↔ lag / 1000 ≤ now - ran := fun ran => (div_le_iff₀ (by norm_num)).symm
  unfold Found
  simp only [Recent.get_foldl_remember, scale]
  constructor
  · rintro ⟨-, before, ran, after, split, once, few, past⟩
    exact ⟨ran, ⟨before, after, split, once, few⟩, past⟩
  · rintro ⟨ran, ⟨before, after, split, once, few⟩, past⟩
    refine ⟨?_, before, ran, after, split, once, few, past⟩
    rw [← Recent.mem_keys_newcomers executedMemoryCap, split]
    simp [Dict.keys]

/-- The root asks for the transaction of a digest. -/
structure AsksFor (root : RootField) (digest : String) : Prop where
  name : root.name = "transaction"
  argument : root.arguments.get "digest" = some (.str digest)

/-- The lag of the quirks in milliseconds, where it is positive. -/
structure Lags (quirks : Quirks) (lag : ℚ) : Prop where
  number : (quirks .transactionIndexLagMs).number = some (.finite lag)
  positive : 0 < lag

theorem Lags.exceeds {quirks : Quirks} {lag : ℚ} (lags : Lags quirks lag) :
    (quirks .transactionIndexLagMs).exceeds 0 = .ok true := by
  have number := lags.number
  have positive := lags.positive
  cases value : quirks .transactionIndexLagMs with
  | bool flag =>
      rw [value] at number
      cases number
      exact congrArg Except.ok (decide_eq_true positive)
  | int whole =>
      rw [value] at number
      cases number
      exact congrArg Except.ok (decide_eq_true positive)
  | float float =>
      rw [value] at number
      cases number
      exact congrArg Except.ok (decide_eq_true positive)
  | _ =>
      rw [value] at number
      cases number

/-- Whether the index has caught up. -/
theorem indexed_eq {quirks : Quirks} {lag : ℚ} (lags : Lags quirks lag) (request : Parsed) (digest : String) :
    ∃ found, Sui.indexed request (quirks .transactionIndexLagMs) digest = .ok found ∧
      (found = true ↔ ∃ ran, request.executedAt.get digest = some ran ∧ lag / 1000 ≤ request.now - ran) := by
  unfold Sui.indexed
  rw [lags.exceeds, ok_bind, if_pos rfl, lags.number]
  cases request.executedAt.get digest with
  | none => exact ⟨false, rfl, by simp⟩
  | some ran =>
      refine ⟨_, rfl, decide_eq_true_iff.trans ⟨fun past => ⟨ran, rfl, past⟩, ?_⟩⟩
      rintro ⟨other, same, past⟩
      cases same
      exact past

theorem stub_transaction {host : Host} {graphql : GraphqlDocument.Request} {request : Parsed} {head : ℤ}
    {blocksBehind : Value} {quirks : Quirks} {root : RootField} {digest : String} (asks : AsksFor root digest) :
    Sui.stub host root graphql request head blocksBehind quirks = (do
      if ← Sui.indexed request (quirks .transactionIndexLagMs) digest then
        pure (.object [
          ("digest", .str digest),
          ("effects", .object [
            ("status", .str "SUCCESS"),
            ("checkpoint", .object [("sequenceNumber", ← Sui.tip host head blocksBehind)])])])
      else pure .none) := by
  unfold Sui.stub
  rw [asks.name]
  change Sui.transaction host root request head blocksBehind quirks = _
  unfold Sui.transaction
  rw [asks.argument]
  rfl

/-- The stub of a lookup is null or not as the digest is found. -/
theorem stub_ne_none_iff {host : Host} {graphql : GraphqlDocument.Request} {request : Parsed} {head : ℤ}
    {blocksBehind : Value} {quirks : Quirks} {lag : ℚ} {root : RootField} {digest : String} {value : Value}
    (lags : Lags quirks lag) (asks : AsksFor root digest)
    (gave : Sui.stub host root graphql request head blocksBehind quirks = .ok value) :
    value ≠ .none ↔ ∃ ran, request.executedAt.get digest = some ran ∧ lag / 1000 ≤ request.now - ran := by
  obtain ⟨found, isFound, iff⟩ := indexed_eq lags request digest
  rw [← iff]
  rw [stub_transaction asks, isFound, ok_bind] at gave
  cases found with
  | false =>
      cases gave
      exact ⟨fun given => absurd rfl given, nofun⟩
  | true =>
      obtain ⟨tip, -, whole⟩ := ok_of_bind gave
      cases whole
      exact ⟨fun _ => rfl, fun _ => nofun⟩

/-- A lookup is answered where `blocks_behind` is a whole number. -/
theorem stub_gives {host : Host} {graphql : GraphqlDocument.Request} {request : Parsed} {head behind : ℤ}
    {quirks : Quirks} {lag : ℚ} {root : RootField} {digest : String} (lags : Lags quirks lag) (asks : AsksFor root digest) :
    ∃ value, Sui.stub host root graphql request head (.int behind) quirks = .ok value := by
  obtain ⟨found, isFound, -⟩ := indexed_eq lags request digest
  rw [stub_transaction asks, isFound, ok_bind, Sui.tip_eq]
  cases found with
  | false => exact ⟨_, rfl⟩
  | true => exact ⟨_, rfl⟩

/-- **Reading after a write.** In every run, the memory has at most the cap of digests, a digest that is remembered keeps
its time and its place, and a lookup with a lag answers a digest if and only if it is found. -/
theorem read_after_write (sui : IsSui site) (run : Run site provider history state) :
    state.executed.length ≤ executedMemoryCap ∧
    (∀ digest ran now, Dict.get state.executed digest = some ran → state.rememberExecuted digest now = state) ∧
    (∀ request drawn head graphql content, Answered site state request drawn head graphql content →
      (∀ digest ∈ graphql.roots.filterMap (executes site.host), state.executed.has digest = true) →
      (afterRequest site state request drawn head).executed = state.executed) ∧
    ∀ lag, Lags state.quirks lag → ∀ root digest, AsksFor root digest → ∀ (drawn : Drawn) (head : ℤ) graphql,
      (∀ behind, ∃ value, Sui.stub site.host root graphql (lookup graphql state.executed drawn.now) head (.int behind)
        state.quirks = .ok value ∧ (value ≠ .none ↔ Found history digest lag drawn.now)) ∧
      ∀ request content earlier later, Answered site state request drawn head graphql content →
        graphql.roots = earlier ++ root :: later → (∀ other ∈ later, other.responseKey ≠ root.responseKey) →
        ∃ data rest value, content.body = .dict ((.text "data", .dict data) :: rest) ∧
          Dict.get data (.text root.responseKey) = some value ∧ (value ≠ .none ↔ Found history digest lag drawn.now) := by
  have memory := run.executed_eq sui
  refine ⟨?_, ?_, ?_, ?_⟩
  · rw [memory]
    exact Recent.length_foldl_remember _ _
  · intro digest ran now there
    have has : state.executed.has digest = true := by
      unfold Dict.has
      rw [there]
      rfl
    unfold ProviderState.rememberExecuted
    rw [if_pos has]
  · intro request drawn head graphql content answered there
    rw [afterRequest_executed sui answered]
    refine Recent.foldl_remember_of_has fun run member => ?_
    obtain ⟨digest, inside, rfl⟩ := List.mem_map.mp member
    exact there digest inside
  · intro lag lags root digest asks drawn head graphql
    have found : ∀ blocksBehind value, Sui.stub site.host root graphql (lookup graphql state.executed drawn.now) head
        blocksBehind state.quirks = .ok value → (value ≠ .none ↔ Found history digest lag drawn.now) := by
      intro blocksBehind value gave
      rw [stub_ne_none_iff lags asks gave, found_iff, ← memory]
      rfl
    constructor
    · intro behind
      obtain ⟨value, gave⟩ := stub_gives lags asks
      exact ⟨value, gave, found _ value gave⟩
    · intro request content earlier later answered roots last
      obtain ⟨library, room, isReader⟩ := sui.reader
      obtain ⟨reply, rest, answers, body⟩ := Sui.body_of_buildSuccess rfl answered.content
      rw [answered.quiet.responses, roots] at answers
      obtain ⟨given, answer, placed⟩ := answerAll_value last answers
      refine ⟨reply.data, rest, given.value, body, placed, ?_⟩
      have query : root.name ≠ "executeTransaction" := by
        rw [asks.name]
        decide
      rw [answer_free, if_neg query] at answer
      obtain ⟨value, gave, shaping⟩ := ok_of_bind answer
      obtain ⟨shaped, projects, whole⟩ := ok_of_bind shaping
      cases whole
      rw [isReader] at projects
      rw [← found _ value gave]
      exact not_congr (project_eq_none_iff projects)

end

/-! ### One transaction -/

/-- A text that executes one transaction. -/
def executeText : String := "mutation \x7bexecuteTransaction(transactionDataBcs: \"AA==\")\x7d"

/-- A library that parses that text. -/
def executeLibrary : Library where
  parse _ := .ok [.operation {
    operation := "mutation"
    name := none
    variableDefinitions := []
    selectionSet := [.field "executeTransaction" none [("transactionDataBcs", .string "AA==")] [] none] }]
  valueOf node _ :=
    match node with
    | .string value => .ok (some (.str value))
    | _ => .ok none
  room := 900

/-- A host that reads the body of the request, and whose digest is one byte. -/
def executeHost : Host :=
  { asciiHost with
    loadsText := fun _ => .ok (.object [("query", .str executeText)])
    decode := fun _ => .ok ("\x7b\"query\": \"mutation ...\"\x7d")
    decodeBase64 := fun _ => some [0]
    blake2b := fun _ => [1] }

/-- A Sui provider with one GraphQL endpoint. -/
def executeSite : Listeners.Site where
  host := executeHost
  reader := Sui.roomyReader executeLibrary 900
  chain := .sui
  endpoint := ⟨.graphql, .http, 19000⟩

theorem executeSite_isSui : IsSui executeSite := ⟨rfl, .inl rfl, _, _, rfl⟩

/-- The provider. -/
def executeProvider : Provider := ⟨⟨"sui", "1"⟩, .sui, [⟨.graphql, .http, 19000⟩]⟩

/-- The body of the request. -/
def executeRequest : RawRequest := { body := [123] }

/-- What the request draws at a time. -/
def drawnAt (now : ℚ) : Drawn where
  roll := 0
  rollNonneg := Env.least_roll
  nextId := 1
  now := now
  token := "0x1"
  unregistered := false
  readAt := now
  stamp := ⟨now, ""⟩

/-- The root of the request. -/
def executeRoot : RootField where
  name := "executeTransaction"
  responseKey := "executeTransaction"
  arguments := [("transactionDataBcs", .str "AA==")]
  selection := none

/-- A root that looks the transaction up. -/
def lookupRoot : RootField where
  name := "transaction"
  responseKey := "transaction"
  arguments := [("digest", .str "2")]
  selection := none

/-- The default provider with a lag of half a second. -/
def laggingState : ProviderState :=
  { ProviderState.fresh .sui with
    quirks := fun field => if field = .transactionIndexLagMs then .int 500 else Chain.quirksDefault .sui field }

/-- The request with its root. -/
def executeGraphql : GraphqlDocument.Request where
  operation := "mutation"
  roots := [executeRoot]
  method := "executeTransaction"
  requestId := .none
  variableValues := []
  fragments := []

/-- The request is answered. -/
theorem execute_answered :
    ∃ content, Answered executeSite laggingState executeRequest (drawnAt 0) 0 executeGraphql content := by
  have accepted : parseGraphqlRequest executeSite.host executeSite.reader executeRequest.body = .ok executeGraphql := rfl
  exact ⟨_, accepted, ⟨rfl, true, .str "success", rfl, rfl⟩, rfl⟩

/-- A transaction that is executed at the time 0 is found half a second later, and not before. -/
theorem read_after_write_half_second :
    ∃ state, Run executeSite executeProvider [("2", 0)] state ∧
      (∃ value, Sui.stub executeHost lookupRoot executeGraphql (lookup executeGraphql state.executed (1 / 2)) 0 (.int 0)
        state.quirks = .ok value ∧ value ≠ .none) ∧
      Sui.stub executeHost lookupRoot executeGraphql (lookup executeGraphql state.executed (499 / 1000)) 0 (.int 0)
        state.quirks = .ok .none := by
  obtain ⟨content, answered⟩ := execute_answered
  have start : Run executeSite executeProvider [] laggingState := .write .fresh _ _ _ _
  have run : Run executeSite executeProvider [("2", 0)] (afterRequest executeSite laggingState executeRequest (drawnAt 0) 0) :=
    .request start executeRequest (drawnAt 0) 0 answered
  have quirks : (afterRequest executeSite laggingState executeRequest (drawnAt 0) 0).quirks = laggingState.quirks := rfl
  have lags : Lags (afterRequest executeSite laggingState executeRequest (drawnAt 0) 0).quirks 500 := by
    rw [quirks]
    exact ⟨rfl, by norm_num⟩
  have once : Recent.newcomers executedMemoryCap [("2", (0 : ℚ))] = [("2", 0)] := rfl
  obtain ⟨-, -, -, finds⟩ := read_after_write executeSite_isSui run
  refine ⟨_, run, ?_, ?_⟩
  · obtain ⟨value, gave, iff⟩ := (finds 500 lags lookupRoot "2" ⟨rfl, rfl⟩ (drawnAt (1 / 2)) 0 executeGraphql).1 0
    refine ⟨value, gave, iff.mpr ⟨List.mem_cons_self, [], 0, [], once, nofun, by decide, ?_⟩⟩
    norm_num [drawnAt]
  · obtain ⟨value, gave, iff⟩ := (finds 500 lags lookupRoot "2" ⟨rfl, rfl⟩ (drawnAt (499 / 1000)) 0 executeGraphql).1 0
    have missing : ¬ Found [("2", 0)] "2" 500 (drawnAt (499 / 1000)).now := by
      rintro ⟨-, before, ran, after, split, -, -, past⟩
      rw [once] at split
      have member : ("2", ran) ∈ [("2", (0 : ℚ))] := by
        rw [split]
        simp
      obtain rfl : ran = 0 := by simpa using member
      norm_num [drawnAt] at past
    have null : value = .none := by
      by_contra given
      exact missing (iff.mp given)
    rw [← null]
    exact gave

end ProviderSimulator.Simulator
