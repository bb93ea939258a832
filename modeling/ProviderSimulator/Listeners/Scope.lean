/-
**What the filters of a scenario hold back.**

A request to an endpoint that the stored block does not target gets no fault, no latency, no corruption,
no pause, no chosen header and no override of its method, and it takes no count of the `fail_first_n`
window. The chains read three fields of the block for the content of a reply, and read them whether the
endpoint is targeted or not: `responses`, `blocks_behind` and `http_status` (`SameContent`).

* `chains_congr` — a chain reads these three fields only;
* `DefaultFor` — the chain uses none of them for the request, but at its default;
* `answer_untargeted` — the flow of a request that the block does not target;
* `answerParsed_default` — the same request under the defaults;
* `untargeted_reply` — an untargeted request gets the reply of any other block with the same content, and
  the one of the defaults where the block is at its defaults for the request.
-/

import Mathlib.Tactic.Common
import ProviderSimulator.Chains.UsedFields
import ProviderSimulator.Control.StoredBlocks
import ProviderSimulator.Listeners.Reads

namespace ProviderSimulator.Listeners

open ProviderSimulator.Lib ProviderSimulator.Lib.Flow ProviderSimulator.Python ProviderSimulator.Domain
open ProviderSimulator.FaultPolicy (Verdict windowActive resolveMode ladder targets)
open ProviderSimulator.Chains (Parsed Content DefaultContent responsesOf)

/-- **Two blocks that the chains read alike.** -/
structure SameContent (first second : Scenario) : Prop where
  responses : first .responses = second .responses
  blocksBehind : first .blocksBehind = second .blocksBehind
  httpStatus : first .httpStatus = second .httpStatus

/-! ### Content -/

section

variable {first second : Scenario} (same : SameContent first second)
include same

theorem responsesOf_congr : responsesOf first = responsesOf second := by
  unfold responsesOf
  rw [same.responses]

theorem eth_congr (host : Host) (request : Parsed) (quirks : Quirks) (head : ℤ) :
    Chains.Eth.buildSuccess host request first quirks head =
      Chains.Eth.buildSuccess host request second quirks head := by
  unfold Chains.Eth.buildSuccess
  rw [responsesOf_congr same, same.blocksBehind, same.httpStatus]

theorem btc_congr (host : Host) (request : Parsed) (head : ℤ) :
    Chains.Btc.buildSuccess host request first head = Chains.Btc.buildSuccess host request second head := by
  unfold Chains.Btc.buildSuccess
  rw [responsesOf_congr same, same.blocksBehind, same.httpStatus]

theorem ln_congr (host : Host) (request : Parsed) (head : ℤ) :
    Chains.Ln.buildSuccess host request first head = Chains.Ln.buildSuccess host request second head := by
  unfold Chains.Ln.buildSuccess
  rw [responsesOf_congr same, same.blocksBehind, same.httpStatus]

theorem solana_congr (host : Host) (request : Parsed) (quirks : Quirks) (head : ℤ) :
    Chains.Solana.buildSuccess host request first quirks head =
      Chains.Solana.buildSuccess host request second quirks head := by
  unfold Chains.Solana.buildSuccess
  rw [responsesOf_congr same, same.httpStatus]

theorem lava_congr (host : Host) (request : Parsed) (head : ℤ) (interface : Interface) :
    Chains.Lava.buildSuccess host request first head interface =
      Chains.Lava.buildSuccess host request second head interface := by
  unfold Chains.Lava.buildSuccess Chains.Lava.buildRest Chains.Lava.buildTm Chains.Lava.buildGrpc
  rw [responsesOf_congr same, same.blocksBehind, same.httpStatus]

theorem sui_congr (host : Host) (reader : GraphqlDocument.Reader) (request : Parsed) (quirks : Quirks)
    (head : ℤ) :
    Chains.Sui.buildSuccess host reader request first quirks head =
      Chains.Sui.buildSuccess host reader request second quirks head := by
  unfold Chains.Sui.buildSuccess
  rw [responsesOf_congr same, same.blocksBehind]

/-- **A chain reads three fields of the block.** -/
theorem chains_congr (host : Host) (reader : GraphqlDocument.Reader) (chain : Chain)
    (interface : Interface) (request : Parsed) (quirks : Quirks) (head : ℤ) :
    Chains.buildSuccess host reader chain interface request first quirks head =
      Chains.buildSuccess host reader chain interface request second quirks head := by
  cases chain with
  | eth => exact eth_congr same host request quirks head
  | btc => exact btc_congr same host request head
  | ln => exact ln_congr same host request head
  | solana => exact solana_congr same host request quirks head
  | lava => exact lava_congr same host request head interface
  | sui => exact sui_congr same host reader request quirks head
  | suit => exact sui_congr same host reader request quirks head

theorem chainContent_congr (site : Site) (env : Env) (parsed : Parsed) :
    chainContent site env parsed first = chainContent site env parsed second := by
  unfold chainContent
  rw [chains_congr same]

/-- **The content hook of every listener reads these fields only.** -/
theorem hooks_content_congr (site : Site) (env : Env) (parsed : Parsed) (request : RawRequest) :
    (hooks site env).buildContent parsed first request =
      (hooks site env).buildContent parsed second request := by
  have content : buildContent site env parsed first request = buildContent site env parsed second request := by
    unfold buildContent
    rw [chainContent_congr same]
  unfold hooks
  split
  · show Ws.buildContent site env parsed first request = Ws.buildContent site env parsed second request
    unfold Ws.buildContent
    rw [content]
  · exact content
  · exact content
  · exact content
  · show Graphql.buildContent site env parsed first = Graphql.buildContent site env parsed second
    unfold Graphql.buildContent
    rw [chainContent_congr same]
  · exact content

end

/-! ### Content at the defaults -/

/-- Is the request answered from the registry of the subscriptions? -/
def subscribes (parsed : Parsed) : Bool :=
  match parsed.get "method" with
  | .str method => method ∈ Ws.subscribeMethods ∨ method ∈ Ws.unsubscribeMethods
  | _ => false

/-- The request that the listener hands to its chain, if it asks the chain. -/
def chainRequest (site : Site) (env : Env) (parsed : Parsed) : Option Parsed :=
  match site.endpoint.interface, site.endpoint.transport with
  | .jsonrpc, .ws => if subscribes parsed then none else some parsed
  | .graphql, _ => some { parsed with executedAt := env.executed, now := env.now }
  | _, _ => some parsed

/-- **The block is at its defaults for the request**: no field of it that the chain uses for the request differs
from its default. -/
def DefaultFor (site : Site) (env : Env) (request : RawRequest) (scenario : Scenario) : Prop :=
  ∀ parsed asked,
    (((hooks site env).parseRequest request).outcomeAt scenario).result = .ok (.parsed parsed) →
      chainRequest site env parsed = some asked →
        DefaultContent site.host site.chain site.endpoint.interface asked env.quirks scenario

theorem chainContent_default {site : Site} {env : Env} {asked : Parsed} {scenario : Scenario}
    (content : DefaultContent site.host site.chain site.endpoint.interface asked env.quirks scenario) :
    chainContent site env asked scenario = chainContent site env asked ScenarioField.default := by
  unfold chainContent
  rw [Chains.buildSuccess_default content]

/-- A frame that asks the chain, or is answered from the registry, whatever the block. -/
theorem ws_content_eq {site : Site} {env : Env} {parsed : Parsed} {first second : Scenario} {request : RawRequest}
    (asked : subscribes parsed = false →
      buildContent site env parsed first request = buildContent site env parsed second request) :
    Ws.buildContent site env parsed first request = Ws.buildContent site env parsed second request := by
  unfold subscribes at asked
  unfold Ws.buildContent
  cases given : parsed.get "method" with
  | str method =>
      rw [given] at asked
      have neither : method ∉ Ws.subscribeMethods → method ∉ Ws.unsubscribeMethods →
          buildContent site env parsed first request = buildContent site env parsed second request :=
        fun subscribe unsubscribe => asked (decide_eq_false (not_or.mpr ⟨subscribe, unsubscribe⟩))
      cases request.connection with
      | none =>
          dsimp only
          split
          · rfl
          · next other => exact neither (not_or.mp other).1 (not_or.mp other).2
      | some owns =>
          dsimp only
          split
          · rfl
          · next subscribe =>
              split
              · rfl
              · next unsubscribe => exact neither subscribe unsubscribe
  | _ =>
      rw [given] at asked
      dsimp only
      rw [asked rfl]

/-- **The content hook of every listener at the defaults.** -/
theorem hooks_content_default {site : Site} {env : Env} {parsed : Parsed} {scenario : Scenario}
    (content : ∀ asked, chainRequest site env parsed = some asked →
      DefaultContent site.host site.chain site.endpoint.interface asked env.quirks scenario)
    (request : RawRequest) :
    (hooks site env).buildContent parsed scenario request =
      (hooks site env).buildContent parsed ScenarioField.default request := by
  have plain : chainRequest site env parsed = some parsed →
      buildContent site env parsed scenario request =
        buildContent site env parsed ScenarioField.default request := by
    intro asks
    unfold buildContent
    rw [chainContent_default (content parsed asks)]
  unfold hooks
  unfold chainRequest at content plain
  split
  · next json ws =>
      rw [json, ws] at plain
      exact ws_content_eq fun other => plain (by dsimp only; rw [other, if_neg Bool.false_ne_true])
  · next json other =>
      rw [json] at plain
      refine plain ?_
      split
      · next ws => exact absurd ws other
      · next graphql => cases graphql
      · rfl
  · next rest =>
      rw [rest] at plain
      exact plain rfl
  · next tendermint =>
      rw [tendermint] at plain
      exact plain rfl
  · next graphql =>
      rw [graphql] at content
      show Graphql.buildContent site env parsed scenario =
        Graphql.buildContent site env parsed ScenarioField.default
      unfold Graphql.buildContent
      rw [chainContent_default (graphql ▸ content _ rfl)]
  · next grpc =>
      rw [grpc] at plain
      exact plain rfl

/-! ### A block that does not target the endpoint -/

/-- The policy of a request that the block does not target. -/
def untouched : Policy where
  targeted := false
  mode := .str "success"
  latency := .int 0
  chosen := .dict []
  trailers := .dict []

section

variable {scenario : Scenario} {endpoint : Endpoint} (untargeted : targets scenario endpoint = .ok false)
  (counted : Control.Counted scenario)
include untargeted counted

/-- An untargeted request takes no count. -/
theorem windowActive_untargeted : windowActive scenario endpoint = .ok false := by
  obtain ⟨count, number⟩ := counted.number
  unfold windowActive
  rw [untargeted, number]
  show Except.ok (decide ((0 : ℚ) < count) && false) = _
  rw [Bool.and_false]

theorem resolveMode_untargeted (count : ℕ) :
    resolveMode scenario endpoint count = .ok (false, .str "success") := by
  unfold resolveMode
  rw [untargeted, windowActive_untargeted untargeted counted]
  rfl

end

/-- How a request ends that the policy lets through. -/
def parsedReply (hooks : Hooks) (env : Env) (request : RawRequest) (scenario : Scenario) (policy : Policy) :
    Parse → Serving ServeResult
  | .direct result method label => finishEarly policy method label result
  | .parseError text => finishEarly policy "*" .parseError (buildParseError text)
  | .parsed parsed => answerParsed hooks env scenario policy parsed request

/-- **The flow of an untargeted request.** -/
theorem answer_untargeted (site : Site) (hooks : Hooks) (env : Env) (request : RawRequest)
    {scenario : Scenario} (untargeted : targets scenario site.endpoint = .ok false)
    (counted : Control.Counted scenario) :
    answer site hooks env request scenario =
      hooks.parseRequest request >>= parsedReply hooks env request scenario untouched := by
  unfold answer
  rw [windowActive_untargeted untargeted counted, resolveMode_untargeted untargeted counted]
  rfl

/-- The flow of a request at the defaults. -/
theorem answer_default (site : Site) (hooks : Hooks) (env : Env) (request : RawRequest) :
    answer site hooks env request ScenarioField.default =
      hooks.parseRequest request >>=
        parsedReply hooks env request ScenarioField.default
          { untouched with targeted := true } := by
  rfl

/-! ### The defaults leave a reply as it is -/

/-- No corruption and no pause is asked of the reply. -/
structure Clean (result : ServeResult) : Prop where
  corruptionMode : result.corruptionMode = .none
  missingField : result.missingField = .none
  pauseAt : result.pauseAt = .none
  pauseMs : result.pauseMs = .int 0

/-- A reply as a hook builds it, with nothing of the scenario on it yet. -/
structure Bare (result : ServeResult) : Prop extends Clean result where
  latencyMs : result.latencyMs = .int 0
  replyHeaders : result.replyHeaders = .dict []
  replyTrailers : result.replyTrailers = .dict []

theorem respond_bare (status body : Value) : Bare (respond status body) := ⟨⟨rfl, rfl, rfl, rfl⟩, rfl, rfl, rfl⟩

theorem statusReply_bare (code : String) (text : Value) : Bare (Grpc.statusReply code text) :=
  ⟨⟨rfl, rfl, rfl, rfl⟩, rfl, rfl, rfl⟩

/-- Every listener builds a bare success, which is sent. -/
theorem hooks_buildSuccess_bare (site : Site) (env : Env) {status body : Value} {result : ServeResult}
    (built : (hooks site env).buildSuccess status body = .ok result) : Bare result ∧ result.action = .respond := by
  have plain : Except.ok (buildSuccess status body) = (.ok result : Except PyError ServeResult) →
      Bare result ∧ result.action = .respond := by
    intro same
    cases same
    exact ⟨respond_bare status body, rfl⟩
  unfold hooks at built
  split at built
  · exact plain built
  · exact plain built
  · exact plain built
  · exact plain built
  · exact plain built
  · have grpc : Grpc.buildSuccess site body = .ok result := built
    unfold Grpc.buildSuccess at grpc
    obtain ⟨error, -, later⟩ := ok_of_bind grpc
    split at later
    · obtain ⟨code, -, later⟩ := ok_of_bind later
      obtain ⟨name, -, later⟩ := ok_of_bind later
      obtain ⟨text, -, later⟩ := ok_of_bind later
      cases later
      exact ⟨statusReply_bare _ _, rfl⟩
    · obtain ⟨method, -, later⟩ := ok_of_bind later
      cases later
      exact ⟨⟨⟨rfl, rfl, rfl, rfl⟩, rfl, rfl, rfl⟩, rfl⟩

/-- At the defaults no listener corrupts a clean reply. -/
theorem hooks_corrupt_default (site : Site) (env : Env) {result : ServeResult} (clean : Clean result)
    (label : Label) : (hooks site env).corrupt result label ScenarioField.default = (result, label) := by
  have plain : corrupt result label ScenarioField.default = (result, label) := by
    unfold corrupt
    obtain ⟨corruptionMode, missingField, -, -⟩ := clean
    cases result
    cases corruptionMode
    cases missingField
    rfl
  unfold hooks
  split
  · exact plain
  · exact plain
  · exact plain
  · exact plain
  · exact plain
  · show Grpc.corrupt site result label ScenarioField.default = (result, label)
    unfold Grpc.corrupt
    split <;> rfl

theorem Clean.pause {result : ServeResult} (clean : Clean result) :
    { result with
      pauseAt := ScenarioField.default .pauseAt
      pauseMs := (ScenarioField.default .pauseMs).orElse (.int 0) } = result := by
  obtain ⟨-, -, pauseAt, pauseMs⟩ := clean
  cases result
  cases pauseAt
  cases pauseMs
  rfl

/-- The decided reply with its latency. -/
def Decided.delayed (decided : Decided) : ServeResult :=
  if decided.result.action = .respond ∨ decided.result.action = .drop then
    { decided.result with latencyMs := decided.latency }
  else decided.result

theorem Decided.delayed_clean {decided : Decided} (clean : Clean decided.result) : Clean decided.delayed := by
  unfold Decided.delayed
  split
  · exact ⟨clean.corruptionMode, clean.missingField, clean.pauseAt, clean.pauseMs⟩
  · exact clean

/-- The decided reply with its latency, its corruption and its pause, and its label. -/
def Decided.dressed (decided : Decided) (hooks : Hooks) (scenario : Scenario) (targeted : Bool) :
    ServeResult × Label :=
  if decided.delayed.action = .respond ∧ targeted then
    let corrupted := hooks.corrupt decided.delayed decided.label scenario
    ({ corrupted.1 with
      pauseAt := scenario .pauseAt, pauseMs := (scenario .pauseMs).orElse (.int 0) }, corrupted.2)
  else (decided.delayed, decided.label)

theorem finish_eq (hooks : Hooks) (scenario : Scenario) (policy : Policy) (parsed : Parsed)
    (decided : Decided) :
    finish hooks scenario policy parsed decided =
      (do
        Flow.leave (.finalize (hooks.requestMethod parsed)
          (decided.dressed hooks scenario policy.targeted).2
          (if decided.waited then decided.latency else .int 0) decided.requestId)
        Flow.ofExcept (withReplyHeaders (decided.dressed hooks scenario policy.targeted).1
          policy.chosen policy.trailers)) := rfl

theorem Decided.dressed_untargeted (decided : Decided) (hooks : Hooks) (scenario : Scenario) :
    decided.dressed hooks scenario false = (decided.delayed, decided.label) := by
  unfold Decided.dressed
  rw [if_neg fun both => Bool.false_ne_true both.2]

theorem Decided.dressed_default (site : Site) (env : Env) {decided : Decided} (clean : Clean decided.result) :
    decided.dressed (hooks site env) ScenarioField.default true = (decided.delayed, decided.label) := by
  have late := Decided.delayed_clean clean
  unfold Decided.dressed
  split
  · rw [hooks_corrupt_default site env late]
    dsimp only
    rw [late.pause]
  · rfl

/-- **A clean reply at the defaults** ends as one that the block does not target. -/
theorem finish_default (site : Site) (env : Env) (scenario : Scenario) (parsed : Parsed) {decided : Decided}
    (clean : Clean decided.result) :
    finish (hooks site env) ScenarioField.default { untouched with targeted := true } parsed decided =
      finish (hooks site env) scenario untouched parsed decided := by
  rw [finish_eq, finish_eq, show untouched.targeted = false from rfl, decided.dressed_untargeted,
    Decided.dressed_default site env clean]

/-- The success content of a request, and the end of its flow. -/
def cleanReply (site : Site) (env : Env) (scenario : Scenario) (parsed : Parsed) (request : RawRequest) :
    Serving ServeResult := do
  let decided ← succeed (hooks site env) scenario (.int 0) parsed request
  finish (hooks site env) scenario untouched parsed decided

/-- A parsed request that the block does not target. -/
theorem answerParsed_untargeted (site : Site) (env : Env) (scenario : Scenario) (parsed : Parsed)
    (request : RawRequest) :
    answerParsed (hooks site env) env scenario untouched parsed request =
      cleanReply site env scenario parsed request := rfl

theorem cleanReply_congr {site : Site} {env : Env} {first second : Scenario} {parsed : Parsed}
    {request : RawRequest}
    (content : (hooks site env).buildContent parsed first request =
      (hooks site env).buildContent parsed second request) :
    cleanReply site env first parsed request = cleanReply site env second parsed request := by
  unfold cleanReply succeed
  rw [content]
  refine congrArg _ (funext fun decided => ?_)
  rw [finish_eq, finish_eq, show untouched.targeted = false from rfl, decided.dressed_untargeted,
    decided.dressed_untargeted]

/-- The ladder gives no verdict at the defaults. -/
theorem verdictFor_default (env : Env) :
    verdictFor true (.str "success") ScenarioField.default env.roll = .ok .none := by
  have never : decide (env.roll < 0) = false := decide_eq_false (not_lt.mpr env.rollNonneg)
  show (do
    if ← (Except.ok (decide (env.roll < 0)) : Except PyError Bool) then
      pure (FaultPolicy.errorVerdict ScenarioField.default)
    else pure Verdict.none) = _
  rw [never]
  rfl

/-- **A parsed request at the defaults** gets the reply of one that the block does not target, unless the
lookup of its method raises. -/
theorem answerParsed_default (site : Site) (env : Env) (parsed : Parsed) (request : RawRequest)
    (entry : methodCfg ScenarioField.default ((hooks site env).methodKey parsed) = .ok []) :
    answerParsed (hooks site env) env ScenarioField.default { untouched with targeted := true } parsed
        request = cleanReply site env ScenarioField.default parsed request := by
  have entered : entryFor ScenarioField.default true ((hooks site env).methodKey parsed) = .ok [] := entry
  unfold answerParsed
  rw [entered]
  show (Flow.ofExcept (verdictFor true (.str "success") ScenarioField.default env.roll) >>= fun verdict =>
    answerVerdict (hooks site env) ScenarioField.default { untouched with targeted := true } (.int 0) parsed
      request verdict) = _
  rw [verdictFor_default]
  show (succeed (hooks site env) ScenarioField.default (.int 0) parsed request >>= fun decided =>
    finish (hooks site env) ScenarioField.default { untouched with targeted := true } parsed decided) = _
  unfold cleanReply succeed
  rw [Flow.bind_assoc, Flow.bind_assoc]
  refine congrArg _ (funext fun content => ?_)
  obtain ⟨status, body⟩ := content
  dsimp only
  cases built : (hooks site env).buildSuccess status body with
  | error error => rfl
  | ok result =>
      cases (hooks site env).successLabel status body parsed with
      | error error => rfl
      | ok label => exact finish_default site env _ parsed ((hooks_buildSuccess_bare site env built).1.toClean)

/-! ### Parsing -/

/-- An unreadable body gets its own reply only of a block that targets the endpoint. -/
theorem unreadableReply_untargeted {site : Site} {scenario : Scenario}
    (untargeted : targets scenario site.endpoint = .ok false) :
    Graphql.unreadableReply site scenario = .ok none := by
  unfold Graphql.unreadableReply
  rw [untargeted]
  dsimp only
  split
  · rfl
  · rfl

theorem reply_outcome {site : Site} {scenario : Scenario}
    (quiet : Graphql.unreadableReply site scenario = .ok none) (kind : GraphqlDocument.Kind) (message : String) :
    (Graphql.replyToAnUnreadableBody site kind message).outcomeAt scenario =
      ⟨[], .ok (respond (GraphqlDocument.defaultErrorReply kind message).1
        (GraphqlDocument.defaultErrorReply kind message).2)⟩ := by
  unfold Graphql.replyToAnUnreadableBody
  rw [Flow.snapshot_bind, Flow.outcomeAt, quiet]
  rfl

/-- **A request parses alike** under two blocks with no reply to an unreadable body. -/
theorem parse_outcome_eq (site : Site) (env : Env) (request : RawRequest) {first second : Scenario}
    (firstQuiet : Graphql.unreadableReply site first = .ok none)
    (secondQuiet : Graphql.unreadableReply site second = .ok none) :
    ((hooks site env).parseRequest request).outcomeAt first =
      ((hooks site env).parseRequest request).outcomeAt second := by
  by_cases plain : site.endpoint.interface = .graphql → unreadable site request = false
  · exact (hooks_parse_tame site env request plain).outcomeAt_eq first second
  · push Not at plain
    rw [hooks_parse_graphql site env request plain.1]
    unfold Graphql.parseRequest
    split
    · rfl
    · rw [Flow.outcomeAt_bind, Flow.outcomeAt_bind, reply_outcome firstQuiet, reply_outcome secondQuiet]
      rfl
    · rfl

/-- The method of the request cannot be looked up. -/
def Unhashable (site : Site) (parsed : Parsed) : Prop :=
  site.endpoint.interface = .jsonrpc ∧ parsed.graphql = none ∧ (parsed.get "method").hashable = false

theorem methodCfg_default_value {key : Value} (hashable : key.hashable = true) :
    methodCfg ScenarioField.default (some (.value key)) = .ok [] := by
  cases key with
  | list items => cases hashable
  | dict entries => cases hashable
  | _ => rfl

/-- The default key of a method at the defaults. -/
theorem methodCfg_default (parsed : Parsed) (hashable : (parsed.get "method").hashable = true) :
    methodCfg ScenarioField.default (methodKey parsed) = .ok [] := by
  unfold methodKey
  dsimp only
  split
  · rfl
  · exact methodCfg_default_value hashable

theorem jsonRpc_parsed {site : Site} {request : RawRequest} {parsed : Parsed}
    (gave : JsonRpc.parseRequest site request = .ok (.parsed parsed)) : parsed.graphql = none := by
  unfold JsonRpc.parseRequest at gave
  split at gave
  · cases gave
    rfl
  · split at gave
    all_goals first
      | (cases gave; done)
      | (cases gave; rfl)

theorem jsonRpc_entry {site : Site} (json : site.endpoint.interface = .jsonrpc) {request : RawRequest}
    {parsed : Parsed} (gave : JsonRpc.parseRequest site request = .ok (.parsed parsed)) :
    methodCfg ScenarioField.default (methodKey parsed) = .ok [] ∨ Unhashable site parsed := by
  cases hashable : (parsed.get "method").hashable with
  | true => exact .inl (methodCfg_default parsed hashable)
  | false => exact .inr ⟨json, jsonRpc_parsed gave, hashable⟩

theorem rest_entry {site : Site} {env : Env} {request : RawRequest} {parsed : Parsed}
    (gave : Rest.parseRequest site env request = .ok (.parsed parsed)) :
    methodCfg ScenarioField.default (Rest.methodKey parsed) = .ok [] := by
  unfold Rest.parseRequest at gave
  obtain ⟨id, -, later⟩ := ok_of_bind gave
  obtain ⟨body, -, built⟩ := ok_of_bind later
  cases built
  cases Rest.findRoute (Rest.routeVerb request.verb.toUpper) request.path with
  | none => rfl
  | some route =>
      obtain ⟨template, params⟩ := route
      show methodCfg ScenarioField.default (if (Value.str template).truthy then
        some (.route ((Value.str (Rest.routeVerb request.verb.toUpper)).orElse
          (.str request.verb.toUpper)) (.str template)) else none) = .ok []
      unfold Value.orElse
      split
      · split
        · rfl
        · rfl
      · rfl

theorem tendermint_entry {site : Site} {env : Env} {request : RawRequest} {parsed : Parsed}
    (gave : (if request.verb.toUpper = "GET" then Tendermint.parseGet site env request
      else Tendermint.parsePost site request) = .ok (.parsed parsed)) :
    methodCfg ScenarioField.default (methodKey parsed) = .ok [] := by
  have called : ∀ method params requestId,
      Tendermint.parsedCall site method params requestId = .ok (.parsed parsed) →
        methodCfg ScenarioField.default (methodKey parsed) = .ok [] := by
    intro method params requestId call
    unfold Tendermint.parsedCall at call
    obtain ⟨read, -, built⟩ := ok_of_bind call
    cases built
    exact methodCfg_default _ rfl
  split at gave
  · unfold Tendermint.parseGet at gave
    dsimp only at gave
    split at gave
    · cases gave
    · exact called _ _ _ gave
  · unfold Tendermint.parsePost at gave
    split at gave
    · cases gave
    · split at gave
      · cases gave
      · cases gave
      · split at gave
        · split at gave
          · cases gave
          · exact called _ _ _ gave
        · cases gave
      · cases gave

theorem graphql_entry {site : Site} {request : RawRequest} {scenario : Scenario} {parsed : Parsed}
    (gave : ((Graphql.parseRequest site request).outcomeAt scenario).result = .ok (.parsed parsed)) :
    methodCfg ScenarioField.default (methodKey parsed) = .ok [] := by
  unfold Graphql.parseRequest at gave
  split at gave
  · cases gave
  · rw [Flow.outcomeAt_bind] at gave
    unfold Outcome.followedBy at gave
    split at gave
    · cases gave
    · cases gave
  · cases gave
    exact methodCfg_default _ rfl

/-- **The entry of a parsed request at the defaults**: none, unless its method is no key. -/
theorem hooks_entry {site : Site} {env : Env} {request : RawRequest} {scenario : Scenario} {parsed : Parsed}
    (gave : (((hooks site env).parseRequest request).outcomeAt scenario).result = .ok (.parsed parsed)) :
    methodCfg ScenarioField.default ((hooks site env).methodKey parsed) = .ok [] ∨ Unhashable site parsed := by
  revert gave
  unfold hooks
  split
  · next json _ =>
      intro gave
      exact jsonRpc_entry json ((congrArg Outcome.result (Flow.outcomeAt_ofExcept _ _)).symm.trans gave)
  · next json _ =>
      intro gave
      exact jsonRpc_entry json ((congrArg Outcome.result (Flow.outcomeAt_ofExcept _ _)).symm.trans gave)
  · intro gave
    exact .inl (rest_entry ((congrArg Outcome.result (Flow.outcomeAt_ofExcept _ _)).symm.trans gave))
  · intro gave
    exact .inl (tendermint_entry ((congrArg Outcome.result (Flow.outcomeAt_ofExcept _ _)).symm.trans gave))
  · intro gave
    exact .inl (graphql_entry gave)
  · intro gave
    cases gave
    exact .inl (methodCfg_default { fields := [("method", .str request.path)], message := request.message } rfl)

/-! ### A method that is no key -/

theorem methodCfgOf_unhashable (responses : Value) {method : Value} (unhashable : method.hashable = false) :
    ∃ error, Chains.methodCfgOf responses method = .error error := by
  have raised : ∃ error, responses.getKey method = .error error := by
    cases responses with
    | dict entries =>
        cases method with
        | list items => exact ⟨_, rfl⟩
        | dict entries => exact ⟨_, rfl⟩
        | _ => cases unhashable
    | _ => exact ⟨_, rfl⟩
  obtain ⟨error, raised⟩ := raised
  refine ⟨error, ?_⟩
  unfold Chains.methodCfgOf
  rw [raised]
  rfl

/-- The first half of a reply raises too. -/
theorem front_unhashable (stubs : Dict String Value) (responses requestId : Value)
    (rest : Value → Except PyError Chains.Content) {method : Value} (unhashable : method.hashable = false) :
    ∃ error, Chains.front stubs responses method requestId rest = .error error := by
  obtain ⟨error, raised⟩ := methodCfgOf_unhashable responses unhashable
  refine ⟨error, ?_⟩
  unfold Chains.front
  rw [raised]
  rfl

theorem chains_unhashable {site : Site} {parsed : Parsed} (unhashable : Unhashable site parsed)
    (scenario : Scenario) (quirks : Quirks) (head : ℤ) :
    ∃ error, Chains.buildSuccess site.host site.reader site.chain site.endpoint.interface parsed scenario
      quirks head = .error error := by
  obtain ⟨json, noDocument, method⟩ := unhashable
  have given : (parsed.getD "method" (.str "unknown")).hashable = false := by
    unfold Parsed.get at method
    unfold Parsed.getD
    cases found : parsed.fields.get "method" with
    | none =>
        rw [found] at method
        cases method
    | some value =>
        rw [found] at method
        exact method
  have sui : Chains.Sui.buildSuccess site.host site.reader parsed scenario quirks head = .error .keyError := by
    unfold Chains.Sui.buildSuccess
    rw [noDocument]
  cases site.chain with
  | eth =>
      show ∃ error, Chains.Eth.buildSuccess site.host parsed scenario quirks head = .error error
      rw [Chains.Eth.buildSuccess_eq]
      exact front_unhashable _ _ _ _ given
  | btc => exact front_unhashable _ _ _ _ given
  | ln => exact front_unhashable _ _ _ _ given
  | solana =>
      show ∃ error, Chains.Solana.buildSuccess site.host parsed scenario quirks head = .error error
      rw [Chains.Solana.buildSuccess_eq]
      exact front_unhashable _ _ _ _ given
  | lava =>
      rw [json]
      exact ⟨_, rfl⟩
  | sui => exact ⟨_, sui⟩
  | suit => exact ⟨_, sui⟩

/-- **Such a request ends with an exception in the content hook too.** -/
theorem hooks_content_unhashable {site : Site} {parsed : Parsed} (unhashable : Unhashable site parsed)
    (env : Env) (scenario : Scenario) (request : RawRequest) :
    ∃ error, (hooks site env).buildContent parsed scenario request = .raised error := by
  obtain ⟨error, raised⟩ := chains_unhashable unhashable scenario env.quirks env.head
  have content : buildContent site env parsed scenario request = .raised error := by
    unfold buildContent chainContent
    rw [raised]
    rfl
  obtain ⟨json, -, method⟩ := unhashable
  unfold hooks
  rw [json]
  cases site.endpoint.transport with
  | http => exact ⟨error, content⟩
  | http2 => exact ⟨error, content⟩
  | ws =>
      show ∃ error, Ws.buildContent site env parsed scenario request = .raised error
      unfold Ws.buildContent
      split
      · next name _ given _ =>
          rw [given] at method
          cases method
      · next given _ =>
          rw [given] at method
          cases method
      · rw [if_neg (by rw [method]; exact Bool.false_ne_true)]
        exact ⟨_, rfl⟩

/-- At the defaults the lookup of such a method raises. -/
theorem answerParsed_unhashable {site : Site} {parsed : Parsed} (unhashable : Unhashable site parsed)
    (env : Env) (request : RawRequest) :
    answerParsed (hooks site env) env ScenarioField.default { untouched with targeted := true } parsed
      request = .raised .typeError := by
  obtain ⟨json, -, method⟩ := unhashable
  have keyed : methodCfg ScenarioField.default (methodKey parsed) = .error .typeError := by
    unfold methodKey
    cases given : parsed.get "method" with
    | list items => rfl
    | dict entries => rfl
    | _ =>
        rw [given] at method
        cases method
  have entry : entryFor ScenarioField.default true ((hooks site env).methodKey parsed) = .error .typeError := by
    unfold hooks
    rw [json]
    cases site.endpoint.transport with
    | http => exact keyed
    | http2 => exact keyed
    | ws => exact keyed
  unfold answerParsed
  rw [entry]
  rfl

/-! ### Replies -/

/-- **Two runs of a request that nobody can tell apart**: the same effects, and the same result. An
exception ends both of them, or none. -/
structure Alike {T : Type} (first second : Outcome PyError Effect T) : Prop where
  effects : first.effects = second.effects
  result : first.result.toOption = second.result.toOption

theorem Alike.refl {T : Type} (outcome : Outcome PyError Effect T) : Alike outcome outcome := ⟨rfl, rfl⟩

/-- The same begin, and ends that nobody can tell apart. -/
theorem Alike.followedBy {T U : Type} (begun : Outcome PyError Effect T) {first second : T → Outcome PyError Effect U}
    (alike : ∀ value, begun.result = .ok value → Alike (first value) (second value)) :
    Alike (begun.followedBy first) (begun.followedBy second) := by
  unfold Outcome.followedBy
  cases ended : begun.result with
  | error error => exact Alike.refl _
  | ok value =>
      have same := alike value ended
      exact ⟨congrArg (begun.effects ++ ·) same.effects, same.result⟩

theorem Alike.map {T U : Type} {first second : Outcome PyError Effect T} (alike : Alike first second)
    (next : T → U) :
    Alike (first.followedBy fun value => ⟨[], .ok (next value)⟩)
      (second.followedBy fun value => ⟨[], .ok (next value)⟩) := by
  obtain ⟨effects, result⟩ := alike
  unfold Outcome.followedBy
  cases ended : first.result with
  | error error =>
      cases other : second.result with
      | error error => exact ⟨effects, rfl⟩
      | ok value =>
          rw [ended, other] at result
          cases result
  | ok value =>
      cases other : second.result with
      | error error =>
          rw [ended, other] at result
          cases result
      | ok found =>
          rw [ended, other] at result
          cases result
          exact ⟨congrArg (· ++ []) effects, rfl⟩

section

variable (site : Site) (env : Env) (request : RawRequest) (arrived : Bool)

/-- The body of a HEAD is withheld. -/
def delivered (result : ServeResult) : ServeResult :=
  if site.endpoint.interface = .rest then Rest.withholdBody request result else result

/-- The outcome of a call that finds one block. -/
theorem serveAt_outcomeAt (scenario : Scenario) :
    (serveAt site env request arrived).outcomeAt scenario =
      (((arrival (hooks site env) request arrived).outcomeAt scenario).followedBy fun _ =>
        (answer site (hooks site env) env request scenario).outcomeAt scenario).followedBy fun result =>
          ⟨[], .ok (delivered site request result)⟩ := by
  unfold serveAt serve
  rw [Flow.outcomeAt_bind, Flow.outcomeAt_bind]
  refine congrArg _ (funext fun result => ?_)
  unfold delivered
  split
  · rfl
  · rfl

theorem arrival_outcome_eq (first second : Scenario) :
    (arrival (hooks site env) request arrived).outcomeAt first =
      (arrival (hooks site env) request arrived).outcomeAt second :=
  (arrival_tame request arrived).outcomeAt_eq first second

/-- A request under two blocks that do not target it and give it the same content. -/
theorem parsedReply_eq {first second : Scenario} {parse : Parse}
    (content : ∀ parsed, parse = .parsed parsed → (hooks site env).buildContent parsed first request =
      (hooks site env).buildContent parsed second request) :
    (parsedReply (hooks site env) env request first untouched parse).outcomeAt first =
      (parsedReply (hooks site env) env request second untouched parse).outcomeAt second := by
  cases parse with
  | direct result method label => exact (finishEarly_tame _ _ _ _).outcomeAt_eq first second
  | parseError text => exact (finishEarly_tame _ _ _ _).outcomeAt_eq first second
  | parsed parsed =>
      show (answerParsed (hooks site env) env first untouched parsed request).outcomeAt first =
        (answerParsed (hooks site env) env second untouched parsed request).outcomeAt second
      rw [answerParsed_untargeted, answerParsed_untargeted, cleanReply_congr (content parsed rfl),
        ← answerParsed_untargeted]
      exact (answerParsed_tame env second untouched parsed request
        (hooks_content_tame site env parsed second request)).outcomeAt_eq first second

/-- A request at the defaults, and one that a block at its defaults for the request does not target. -/
theorem parsedReply_default {scenario : Scenario} (defaults : DefaultFor site env request scenario)
    {parse : Parse} (gave : (((hooks site env).parseRequest request).outcomeAt scenario).result = .ok parse) :
    Alike ((parsedReply (hooks site env) env request scenario untouched parse).outcomeAt scenario)
      ((parsedReply (hooks site env) env request ScenarioField.default { untouched with targeted := true }
        parse).outcomeAt ScenarioField.default) := by
  have content : ∀ parsed, parse = .parsed parsed → (hooks site env).buildContent parsed scenario request =
      (hooks site env).buildContent parsed ScenarioField.default request := by
    rintro parsed rfl
    exact hooks_content_default (fun asked asks => defaults parsed asked gave asks) request
  rw [parsedReply_eq site env request content]
  cases parse with
  | direct result method label => exact Alike.refl _
  | parseError text => exact Alike.refl _
  | parsed parsed =>
      show Alike
        ((answerParsed (hooks site env) env ScenarioField.default untouched parsed request).outcomeAt _)
        ((answerParsed (hooks site env) env ScenarioField.default { untouched with targeted := true } parsed
          request).outcomeAt _)
      rw [answerParsed_untargeted]
      rcases hooks_entry gave with entry | unhashable
      · rw [answerParsed_default site env parsed request entry]
        exact Alike.refl _
      · obtain ⟨error, content⟩ := hooks_content_unhashable unhashable env ScenarioField.default request
        rw [answerParsed_unhashable unhashable]
        unfold cleanReply succeed
        rw [content]
        exact ⟨rfl, rfl⟩

/-! ### The scope of a block -/

variable {site}

/-- Two blocks with the same content that do not target the endpoint. -/
theorem answer_untargeted_eq {first second : Scenario} (same : SameContent first second)
    (firstCounted : Control.Counted first) (secondCounted : Control.Counted second)
    (firstOut : targets first site.endpoint = .ok false) (secondOut : targets second site.endpoint = .ok false) :
    (answer site (hooks site env) env request first).outcomeAt first =
      (answer site (hooks site env) env request second).outcomeAt second := by
  rw [answer_untargeted site _ env request firstOut firstCounted,
    answer_untargeted site _ env request secondOut secondCounted, Flow.outcomeAt_bind, Flow.outcomeAt_bind,
    parse_outcome_eq site env request (unreadableReply_untargeted firstOut)
      (unreadableReply_untargeted secondOut)]
  exact congrArg _ (funext fun parse =>
    parsedReply_eq site env request fun parsed _ => hooks_content_congr same site env parsed request)

/-- A block that does not target the endpoint, and the defaults. -/
theorem answer_default_alike {scenario : Scenario} (defaults : DefaultFor site env request scenario)
    (counted : Control.Counted scenario) (out : targets scenario site.endpoint = .ok false) :
    Alike ((answer site (hooks site env) env request scenario).outcomeAt scenario)
      ((answer site (hooks site env) env request ScenarioField.default).outcomeAt ScenarioField.default) := by
  have untouchedReply : Graphql.unreadableReply site ScenarioField.default = .ok none := rfl
  rw [answer_untargeted site _ env request out counted, answer_default, Flow.outcomeAt_bind,
    Flow.outcomeAt_bind, ← parse_outcome_eq site env request (unreadableReply_untargeted out) untouchedReply]
  refine Alike.followedBy _ fun parse gave => ?_
  exact parsedReply_default site env request defaults gave

/-- An untargeted request takes no count. -/
theorem answer_untargeted_leaves {scenario : Scenario} (counted : Control.Counted scenario)
    (out : targets scenario site.endpoint = .ok false) :
    (answer site (hooks site env) env request scenario).Within True fun effect => effect ≠ .consumeFail := by
  rw [answer_untargeted site _ env request out counted]
  refine .bind (hooks_parse_leaves site env request) fun parse => ?_
  cases parse with
  | direct result method label => exact tame_loose (finishEarly_tame _ _ _ _)
  | parseError text => exact tame_loose (finishEarly_tame _ _ _ _)
  | parsed parsed =>
      exact tame_loose (answerParsed_tame env scenario untouched parsed request
        (hooks_content_tame site env parsed scenario request))

end

/-- A block that accepted control calls, resets and sweeps can leave stored. -/
def Accepted (scenario : Scenario) : Prop :=
  ∃ (layout : Control.Layout) (actions : List Control.WriteAction) (final : Control.Stored)
    (key : ProviderKey), run (Control.writeStep layout) (Control.initial layout) actions = some final ∧
      (final key).scenario.values = scenario

theorem Accepted.counted {scenario : Scenario} (accepted : Accepted scenario) : Control.Counted scenario := by
  obtain ⟨layout, actions, final, key, done, rfl⟩ := accepted
  exact Control.run_counted done key

/-- The bytes of a call with no parameters. -/
def callBody (method : String) : Bytes :=
  ("\x7b\"id\": 1, \"method\": \"" ++ method ++ "\"\x7d").toList.map fun char => UInt8.ofNat char.toNat

def numberBody : Bytes := callBody "eth_blockNumber"

def priceBody : Bytes := callBody "eth_gasPrice"

/-- A host that reads these two bodies. -/
def numberHost : Host where
  str _ := ""
  addFloat a _ := a
  toFloat number := some (.finite number)
  digit _ := none
  space _ := false
  loads body :=
    if body = numberBody then .ok (.object [("id", .int 1), ("method", .str "eth_blockNumber")])
    else if body = priceBody then .ok (.object [("id", .int 1), ("method", .str "eth_gasPrice")])
    else .error (.badJson "Expecting value" 1 1)
  loadsText _ := .error (.badJson "Expecting value" 1 1)
  jsonErrorText _ := "Expecting value: line 1 column 1 (char 0)"
  decode _ := .ok ""
  encode _ := []
  decodeBase64 _ := none
  blake2b _ := []
  frames := 900

/-- The one provider of the simulator with one endpoint. -/
def numberSite : Site where
  host := numberHost
  reader := ⟨fun _ _ _ => .error (.fault .parse ""), fun value _ _ => .ok value⟩
  chain := .eth
  endpoint := Control.soloEndpoint

/-- A call among no others, with no draw above zero. -/
def numberEnv : Env where
  count := 1
  roll := 0
  rollNonneg := Env.least_roll
  quirks := Chain.quirksDefault .eth
  head := 20000000
  nextId := 1
  now := 0
  executed := []
  token := "0x1"
  unregistered := false

/-- A call, and how it ends under a block. -/
def callOutcome (body : Bytes) (scenario : Scenario) : Outcome PyError Effect ServeResult :=
  (serveAt numberSite numberEnv { body } false).outcomeAt scenario

/-- What a call of `POST /scenario` stores for the provider that starts at its defaults. -/
def storedBlock (body : Control.Json) : Scenario :=
  ((Control.applyScenario Control.soloLayout (fun _ => "") (fun _ => 0)
    (Control.initial Control.soloLayout) body).state ⟨"eth-sim", "1"⟩).scenario.values

theorem storedBlock_accepted (body : Control.Json) : Accepted (storedBlock body) :=
  ⟨Control.soloLayout, [.apply (fun _ => "") (fun _ => 0) body], _, ⟨"eth-sim", "1"⟩, rfl, rfl⟩

/-- `{"mode": "error", "blocks_behind": 3, "transports": ["ws"]}`. -/
def errorElsewhere : Control.Json :=
  ⟨.object [("providers", .object [("eth-sim:1",
      .object [("mode", .str "error"), ("blocks_behind", .int 3), ("transports", .list [.str "ws"])])])],
    by simp [Value.object, Value.WellFormed, Value.WellFormedEntries, Value.WellFormedItems]⟩

/-- `{"blocks_behind": 3, "transports": ["ws"]}`. -/
def lagElsewhere : Control.Json :=
  ⟨.object [("providers", .object [("eth-sim:1",
      .object [("blocks_behind", .int 3), ("transports", .list [.str "ws"])])])],
    by simp [Value.object, Value.WellFormed, Value.WellFormedEntries, Value.WellFormedItems]⟩

/-- `{"responses": {"eth_blockNumber": {"result": "0x1"}}, "transports": ["ws"]}`. -/
def resultElsewhere : Control.Json :=
  ⟨.object [("providers", .object [("eth-sim:1",
      .object [
        ("responses", .object [("eth_blockNumber", .object [("result", .str "0x1")])]),
        ("transports", .list [.str "ws"])])])],
    by simp [Value.object, Value.WellFormed, Value.WellFormedEntries, Value.WellFormedItems]⟩

/-- A gas price is no head, so a lag is not used for it. -/
theorem gasPrice_defaultFor :
    DefaultFor numberSite numberEnv { body := priceBody } (storedBlock errorElsewhere) := by
  rintro parsed asked gave asks
  have read : (((hooks numberSite numberEnv).parseRequest { body := priceBody }).outcomeAt
      (storedBlock errorElsewhere)).result =
        .ok (.parsed { fields := [("id", .int 1), ("method", .str "eth_gasPrice")] }) := rfl
  rw [read] at gave
  cases gave
  cases asks
  exact ⟨⟨[], rfl, fun _ _ => rfl⟩, fun uses => (Bool.false_ne_true uses).elim, fun _ => rfl⟩

end ProviderSimulator.Listeners
