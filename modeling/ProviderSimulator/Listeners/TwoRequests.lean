/-
**Two requests that are served alike.**

Two requests of one endpoint, under one scenario and in one environment, pass the same policy. Where they have the same
entry of `responses`, get related faults and related contents, the two replies are twins: they differ at most in their
bodies, which are related. Their history rows have one label and one latency, and related methods and ids.

* `Twin` — two replies that differ at most in their bodies;
* `Matched` — what two parsed requests have to have in common;
* `answerParsed_paired` — the answers to such requests are twins;
* `serve_paired` — **and so are the replies of `serve`**.
-/

import Mathlib.Tactic.Common
import ProviderSimulator.Lib.TwoRuns
import ProviderSimulator.Listeners.Scope

namespace ProviderSimulator.Listeners

open ProviderSimulator.Lib ProviderSimulator.Python ProviderSimulator.Domain
open ProviderSimulator.Lib.Flow (Paired)
open ProviderSimulator.FaultPolicy (Verdict windowActive resolveMode)
open ProviderSimulator.Chains (Parsed)

/-! ### Twins -/

/-- The replies differ at most in their bodies, which are related. -/
structure Twin (Bodies : Body → Body → Prop) (first second : ServeResult) : Prop where
  frame : second = { first with body := second.body }
  bodies : Bodies first.body second.body

section

variable {Bodies : Body → Body → Prop} {first second : ServeResult}

theorem Twin.refl (same : ∀ body, Bodies body body) (result : ServeResult) : Twin Bodies result result :=
  ⟨rfl, same _⟩

theorem Twin.action (twin : Twin Bodies first second) : second.action = first.action := by
  rw [twin.frame]

/-- A change that leaves the body as it is, and does not look at it. -/
theorem Twin.change (twin : Twin Bodies first second) (change : ServeResult → ServeResult)
    (keeps : ∀ result, (change result).body = result.body)
    (blind : ∀ (result : ServeResult) (body : Body), change { result with body } = { change result with body }) :
    Twin Bodies (change first) (change second) := by
  constructor
  · rw [keeps second]
    conv_lhs => rw [twin.frame]
    exact blind first second.body
  · rw [keeps first, keeps second]
    exact twin.bodies

theorem withReplyHeaders_ended (twin : Twin Bodies first second) (chosen trailers : Value) :
    Ended (Twin Bodies) (withReplyHeaders first chosen trailers) (withReplyHeaders second chosen trailers) := by
  unfold withReplyHeaders
  split
  · exact .ok twin
  · refine .bind (.refl (fun _ => rfl) (asDict chosen)) fun headers _ same => ?_
    subst same
    refine .bind (.refl (fun _ => rfl) (asDict (trailers.orElse (.dict [])))) fun trailers _ same => ?_
    subst same
    exact .ok (twin.change (fun result => { result with replyHeaders := headers, replyTrailers := trailers })
      (fun _ => rfl) fun _ _ => rfl)

end

/-! ### Parsed requests -/

/-- The rows of two requests, with any one label and any one latency. -/
def SameRow (Left : Effect → Effect → Prop) (method method' requestId requestId' : Value) : Prop :=
  ∀ label latency, Left (.finalize method label latency requestId) (.finalize method' label latency requestId')

/-- What a listener has to do alike for two requests. -/
structure Fair (hooks : Hooks) (Left : Effect → Effect → Prop) (Bodies : Body → Body → Prop) : Prop where
  refl : ∀ body, Bodies body body
  left : ∀ effect, Left effect effect
  /-- A corruption does not look at the body. -/
  corrupt : ∀ {first second} label scenario, Twin Bodies first second →
    Twin Bodies (hooks.corrupt first label scenario).1 (hooks.corrupt second label scenario).1 ∧
      (hooks.corrupt second label scenario).2 = (hooks.corrupt first label scenario).2

/-- Two decided replies of requests with the methods: one label, one latency, and related rows. -/
structure Decided.Twin (Left : Effect → Effect → Prop) (Bodies : Body → Body → Prop) (method method' : Value)
    (first second : Decided) : Prop where
  result : Listeners.Twin Bodies first.result second.result
  label : second.label = first.label
  row : SameRow Left method method' first.requestId second.requestId
  latency : second.latency = first.latency
  waited : second.waited = first.waited

/-- **What two parsed requests have to have in common.** -/
structure Matched (hooks : Hooks) (Left : Effect → Effect → Prop) (Bodies : Body → Body → Prop)
    (scenario found : Scenario) (one other : Parsed) (request request' : RawRequest) : Prop where
  key : hooks.methodKey other = hooks.methodKey one
  row : SameRow Left (hooks.requestMethod one) (hooks.requestMethod other) (hooks.requestId one) (hooks.requestId other)
  fault : ∀ verdict, Ended (Twin Bodies) (hooks.buildFault verdict one) (hooks.buildFault verdict other)
  content : ∀ latency, Paired Left
    (Decided.Twin Left Bodies (hooks.requestMethod one) (hooks.requestMethod other)) found
    (succeed hooks scenario latency one request) (succeed hooks scenario latency other request')

section

variable {hooks : Hooks} {Left : Effect → Effect → Prop} {Bodies : Body → Body → Prop} {scenario found : Scenario}
  {one other : Parsed} {request request' : RawRequest} {policy : Policy} {env : Env} {method method' : Value}
  {first second : Decided}

theorem Decided.Twin.delayed (twin : Decided.Twin Left Bodies method method' first second) :
    Listeners.Twin Bodies first.delayed second.delayed := by
  unfold Decided.delayed
  rw [twin.result.action, twin.latency]
  split
  · exact twin.result.change (fun result => { result with latencyMs := first.latency }) (fun _ => rfl) fun _ _ => rfl
  · exact twin.result

theorem Decided.Twin.dressed (fair : Fair hooks Left Bodies) (twin : Decided.Twin Left Bodies method method' first second)
    (targeted : Bool) :
    Listeners.Twin Bodies (first.dressed hooks scenario targeted).1 (second.dressed hooks scenario targeted).1 ∧
      (second.dressed hooks scenario targeted).2 = (first.dressed hooks scenario targeted).2 := by
  obtain ⟨corrupted, label⟩ := fair.corrupt first.label scenario twin.delayed
  unfold Decided.dressed
  rw [twin.delayed.action, twin.label]
  split
  · exact ⟨corrupted.change (fun result => { result with
        pauseAt := scenario .pauseAt, pauseMs := (scenario .pauseMs).orElse (.int 0) }) (fun _ => rfl) fun _ _ => rfl,
      label⟩
  · exact ⟨twin.delayed, rfl⟩

theorem finish_paired (fair : Fair hooks Left Bodies)
    (twin : Decided.Twin Left Bodies (hooks.requestMethod one) (hooks.requestMethod other) first second) :
    Paired Left (Twin Bodies) found (finish hooks scenario policy one first)
      (finish hooks scenario policy other second) := by
  have dressed : Twin Bodies (first.dressed hooks scenario policy.targeted).1
      (second.dressed hooks scenario policy.targeted).1 ∧ _ := twin.dressed fair policy.targeted
  rw [finish_eq, finish_eq, dressed.2, twin.latency, twin.waited]
  exact .leave_bind (twin.row _ _) (.ofExcept (withReplyHeaders_ended dressed.1 _ _))

theorem answerVerdict_paired (fair : Fair hooks Left Bodies)
    (matched : Matched hooks Left Bodies scenario found one other request request') (latency : Value)
    (verdict : Verdict) :
    Paired Left (Twin Bodies) found (answerVerdict hooks scenario policy latency one request verdict)
      (answerVerdict hooks scenario policy latency other request' verdict) := by
  have fault : ∀ label waited, Paired Left (Twin Bodies) found
      (do
        let result ← (Flow.ofExcept (hooks.buildFault verdict one) : Serving ServeResult)
        finish hooks scenario policy one { result, label, requestId := hooks.requestId one, latency, waited })
      (do
        let result ← (Flow.ofExcept (hooks.buildFault verdict other) : Serving ServeResult)
        finish hooks scenario policy other { result, label, requestId := hooks.requestId other, latency, waited }) :=
    fun label waited => .bind (.ofExcept (matched.fault verdict)) fun first second twin =>
      finish_paired fair ⟨twin, rfl, matched.row, rfl, rfl⟩
  unfold answerVerdict
  cases verdict with
  | down => exact .leave_bind (matched.row _ _) (.ofExcept (withReplyHeaders_ended (.refl fair.refl _) _ _))
  | none => exact .bind (matched.content latency) fun first second twin => finish_paired fair twin
  | hang => exact fault _ _
  | drop dropAt => exact fault _ _
  | rateLimit body style => exact fault _ _
  | error status code message body => exact fault _ _

/-- **The answers to two parsed requests.** -/
theorem answerParsed_paired (fair : Fair hooks Left Bodies)
    (matched : Matched hooks Left Bodies scenario found one other request request') :
    Paired Left (Twin Bodies) found (answerParsed hooks env scenario policy one request)
      (answerParsed hooks env scenario policy other request') := by
  unfold answerParsed
  rw [matched.key]
  refine .ofExcept_bind fun cfg _ => ?_
  dsimp only
  split
  · next result _ =>
      have canned : ∀ latency, Ended (Decided.Twin Left Bodies (hooks.requestMethod one) (hooks.requestMethod other))
          (cannedReply hooks latency one result) (cannedReply hooks latency other result) := by
        intro latency
        unfold cannedReply
        refine .bind (.refl (fun _ => rfl) (isSuccess result.status)) fun success _ same => ?_
        subst same
        exact .ok ⟨.refl fair.refl _, rfl, matched.row, rfl, rfl⟩
      exact .bind (.ofExcept (canned _)) fun first second twin => finish_paired fair twin
  · exact .ofExcept_bind fun verdict _ => answerVerdict_paired fair matched _ verdict

/-! ### Whole requests -/

/-- The reply is the one of the flow after the snapshot. -/
theorem serve_result (site : Site) (hooks : Hooks) (env : Env) (request : RawRequest) (arrived : Bool)
    (scenario : Scenario) :
    ((serve site hooks env request arrived).outcomeAt scenario).result =
      ((answer site hooks env request scenario).outcomeAt scenario).result := by
  have left : ∀ (effects : List Effect) (next : Unit → Serving ServeResult),
      ((Flow.leaveAll effects >>= next).outcomeAt scenario).result = ((next ()).outcomeAt scenario).result := by
    intro effects next
    rw [Flow.result_followedBy, Flow.outcomeAt_leaveAll]
    rfl
  unfold serve arrival
  rw [Flow.bind_assoc, Flow.bind_assoc, left, left, left]
  rfl

/-- **The answers to two requests** that parse to matched ones. -/
theorem answer_paired {site : Site} (fair : Fair hooks Left Bodies)
    (parses : Paired Left (fun first second => ∃ one other, first = .parsed one ∧ second = .parsed other ∧
      Matched hooks Left Bodies scenario scenario one other request request') scenario (hooks.parseRequest request)
        (hooks.parseRequest request')) :
    Paired Left (Twin Bodies) scenario (answer site hooks env request scenario)
      (answer site hooks env request' scenario) := by
  unfold answer
  refine .ofExcept_bind fun active _ => ?_
  refine .bind (.leaveAll (List.forall₂_same.mpr fun effect _ => fair.left effect)) fun _ _ _ => ?_
  refine .ofExcept_bind fun resolved _ => ?_
  obtain ⟨targeted, mode⟩ := resolved
  dsimp only
  split
  · exact .refl fair.left (Twin.refl fair.refl) _
  · refine parses.bind ?_
    rintro first second ⟨one, other, rfl, rfl, matched⟩
    exact answerParsed_paired fair matched

/-- **The runs of `serve`** for two such requests, which arrive alike. -/
theorem serve_paired {site : Site} {arrived : Bool} (fair : Fair hooks Left Bodies)
    (arrives : Paired Left Eq scenario (arrival hooks request arrived) (arrival hooks request' arrived))
    (parses : Paired Left (fun first second => ∃ one other, first = .parsed one ∧ second = .parsed other ∧
      Matched hooks Left Bodies scenario scenario one other request request') scenario (hooks.parseRequest request)
        (hooks.parseRequest request')) :
    Paired Left (Twin Bodies) scenario (serve site hooks env request arrived) (serve site hooks env request' arrived) := by
  have answers : Paired Left (Twin Bodies) scenario (answer site hooks env request scenario)
      (answer site hooks env request' scenario) := answer_paired fair parses
  unfold serve
  refine arrives.bind fun _ _ _ => ?_
  exact ⟨answers.effects, answers.ended⟩

end

/-- **The reply at the defaults** to a request that parses sends the content as the chain builds it. -/
theorem answer_default_reply {site : Site} {env : Env} {request : RawRequest} {own : Hooks} {parsed : Parsed}
    {status body : Value} {label : Label} (listens : hooks site env = own)
    (parses : own.parseRequest request = Flow.ofExcept (.ok (.parsed parsed)))
    (entry : methodCfg ScenarioField.default (own.methodKey parsed) = .ok [])
    (content : ((own.buildContent parsed ScenarioField.default request).outcomeAt ScenarioField.default).result =
      .ok (status, body))
    (success : own.buildSuccess status body = .ok (respond status body))
    (labels : own.successLabel status body parsed = .ok label) :
    ((answer site own env request ScenarioField.default).outcomeAt ScenarioField.default).result =
      .ok (respond status body) := by
  subst listens
  rw [answer_default, parses]
  change ((answerParsed (hooks site env) env ScenarioField.default { untouched with targeted := true } parsed
    request).outcomeAt ScenarioField.default).result = _
  rw [answerParsed_default site env parsed request entry]
  unfold cleanReply succeed
  rw [Flow.result_followedBy, Flow.result_followedBy, content, ok_bind]
  dsimp only
  rw [success, labels]
  rfl

end ProviderSimulator.Listeners
