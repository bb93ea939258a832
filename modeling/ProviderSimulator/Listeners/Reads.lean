/-
**What the parts of the request flow read and leave.**

After its one snapshot, `serve` reads the scenario no more, unless its parse hook does, and only the
GraphQL one may (`hooks_parse_tame`). No part after the policy takes a count of the `fail_first_n` window.
`Tame` says both of a part, and each part has its lemma; `answer_readFree` puts them together.

The row of a request and the count are the business of `serve` alone. The content hook and the parse hook of
a listener leave only effects that are `Aside` from them.
-/

import Mathlib.Tactic.Common
import ProviderSimulator.Listeners.Interfaces

namespace ProviderSimulator.Listeners

open ProviderSimulator.Lib ProviderSimulator.Lib.Flow ProviderSimulator.Python ProviderSimulator.Domain
open ProviderSimulator.FaultPolicy (Verdict windowActive resolveMode ladder targets)
open ProviderSimulator.Chains (Parsed Content responsesOf)

/-- The part reads no scenario, and takes no count. -/
abbrev Tame {T : Type} (part : Serving T) : Prop := part.Within False fun effect => effect ≠ .consumeFail

theorem tame_loose {T : Type} {part : Serving T} (tame : Tame part) :
    part.Within True fun effect => effect ≠ .consumeFail :=
  tame.mono (fun never => never.elim) fun _ allowed => allowed

/-- The effect is aside from the bookkeeping of the request. -/
def Effect.Aside : Effect → Prop
  | .rememberExecuted _ _ => True
  | .rewriteDefault _ => True
  | .register _ _ => True
  | .unregister _ => True
  | _ => False

theorem Effect.Aside.ne_consumeFail {effect : Effect} (aside : effect.Aside) : effect ≠ .consumeFail := by
  rintro rfl
  exact aside

/-- The part reads no scenario, and keeps out of the bookkeeping. -/
abbrev Apart {T : Type} (part : Serving T) : Prop := part.Within False Effect.Aside

/-! ### Content -/

section

variable (site : Site) (env : Env) (parsed : Parsed) (scenario : Scenario) (request : RawRequest)

theorem chainContent_apart : Apart (chainContent site env parsed scenario) := by
  unfold chainContent
  refine .bind (.ofExcept _) fun content => .bind (.leaveAll ?_) fun _ => .done _
  intro effect member
  obtain ⟨result, -, rfl⟩ := List.mem_map.mp member
  exact trivial

theorem buildContent_apart : Apart (buildContent site env parsed scenario request) := by
  unfold buildContent
  exact .bind (chainContent_apart site env parsed scenario) fun _ => .done _

theorem ws_subscribe_apart (method : String) : Apart (Ws.subscribe env parsed method) := by
  unfold Ws.subscribe
  exact .bind (.leave trivial) fun _ => .done _

theorem ws_unsubscribe_apart (owns : List String) : Apart (Ws.unsubscribe env parsed owns) := by
  unfold Ws.unsubscribe
  refine .bind (.ofExcept _) fun target => .bind (.ofExcept _) fun owned =>
    .bind (.leaveAll ?_) fun _ => .done _
  intro effect member
  obtain ⟨id, -, rfl⟩ := List.mem_map.mp member
  exact trivial

theorem ws_buildContent_apart : Apart (Ws.buildContent site env parsed scenario request) := by
  have content := buildContent_apart site env parsed scenario request
  unfold Ws.buildContent
  split
  · split
    · exact ws_subscribe_apart env parsed _
    · split
      · exact ws_unsubscribe_apart env parsed _
      · exact content
  · split
    · exact .raised _
    · exact content
  · split
    · exact content
    · exact .raised _

theorem graphql_buildContent_apart : Apart (Graphql.buildContent site env parsed scenario) := by
  unfold Graphql.buildContent
  refine .bind (chainContent_apart site env _ scenario) fun content => .bind (.leaveAll ?_) fun _ => .done _
  intro effect member
  obtain ⟨digest, -, rfl⟩ := List.mem_map.mp member
  exact trivial

/-- **The content hook of every listener.** -/
theorem hooks_content_apart : Apart ((hooks site env).buildContent parsed scenario request) := by
  unfold hooks
  split
  · exact ws_buildContent_apart site env parsed scenario request
  · exact buildContent_apart site env parsed scenario request
  · exact buildContent_apart site env parsed scenario request
  · exact buildContent_apart site env parsed scenario request
  · exact graphql_buildContent_apart site env parsed scenario
  · exact buildContent_apart site env parsed scenario request

theorem hooks_content_tame : Tame ((hooks site env).buildContent parsed scenario request) :=
  (hooks_content_apart site env parsed scenario request).mono id fun _ aside => aside.ne_consumeFail

/-! ### Parsing -/

/-- Is the body one that the GraphQL listener cannot read as a request? -/
def unreadable : Bool :=
  match GraphqlDocument.parseGraphqlRequest site.host site.reader request.body with
  | .error (.fault _ _) => true
  | _ => false

/-- **Only the GraphQL listener reads the scenario as it parses, and only for an unreadable body.** -/
theorem hooks_parse_apart (plain : site.endpoint.interface = .graphql → unreadable site request = false) :
    Apart ((hooks site env).parseRequest request) := by
  unfold hooks
  split
  · exact .ofExcept _
  · exact .ofExcept _
  · exact .ofExcept _
  · exact .ofExcept _
  · next graphql =>
      have readable := plain graphql
      unfold unreadable at readable
      show Apart (Graphql.parseRequest site request)
      unfold Graphql.parseRequest
      split
      · exact .raised _
      · next found =>
          rw [found] at readable
          cases readable
      · exact .done _
  · exact .done _

theorem hooks_parse_tame (plain : site.endpoint.interface = .graphql → unreadable site request = false) :
    Tame ((hooks site env).parseRequest request) :=
  (hooks_parse_apart site env request plain).mono id fun _ aside => aside.ne_consumeFail

/-- An unreadable body costs one more snapshot. -/
theorem graphql_reply_leaves (kind : GraphqlDocument.Kind) (message : String) :
    (Graphql.replyToAnUnreadableBody site kind message).Within True Effect.Aside := by
  unfold Graphql.replyToAnUnreadableBody
  refine .bind (.read trivial fun _ => .done _) fun scenario => .bind (.ofExcept _) fun chosen => ?_
  cases chosen with
  | none => exact .done _
  | some result => exact .done _

theorem hooks_parse_graphql (graphql : site.endpoint.interface = .graphql) :
    (hooks site env).parseRequest request = Graphql.parseRequest site request := by
  unfold hooks
  rw [graphql]
  cases site.endpoint.transport <;> rfl

/-- **The parse hook of every listener.** -/
theorem hooks_parse_aside : ((hooks site env).parseRequest request).Within True Effect.Aside := by
  by_cases plain : site.endpoint.interface = .graphql → unreadable site request = false
  · exact (hooks_parse_apart site env request plain).mono (fun never => never.elim) fun _ aside => aside
  · push Not at plain
    rw [hooks_parse_graphql site env request plain.1]
    unfold Graphql.parseRequest
    split
    · exact .raised _
    · exact .bind (graphql_reply_leaves site _ _) fun _ => .done _
    · exact .done _

theorem hooks_parse_leaves :
    ((hooks site env).parseRequest request).Within True fun effect => effect ≠ .consumeFail :=
  (hooks_parse_aside site env request).mono id fun _ aside => aside.ne_consumeFail

end

/-! ### The flow -/

section

variable (hooks : Hooks) (env : Env) (scenario : Scenario) (policy : Policy) (parsed : Parsed)
  (request : RawRequest)

theorem finish_tame (decided : Decided) : Tame (finish hooks scenario policy parsed decided) := by
  unfold finish
  exact .bind (.leave Effect.noConfusion) fun _ => .ofExcept _

theorem finishEarly_tame (method : String) (label : Label) (result : ServeResult) :
    Tame (finishEarly policy method label result) := by
  unfold finishEarly
  exact .bind (.leave Effect.noConfusion) fun _ => .ofExcept _

variable {hooks}

theorem succeed_tame (content : Tame (hooks.buildContent parsed scenario request)) (latency : Value) :
    Tame (succeed hooks scenario latency parsed request) := by
  unfold succeed
  exact .bind content fun _ => .bind (.ofExcept _) fun _ => .bind (.ofExcept _) fun _ => .done _

theorem answerVerdict_tame (content : Tame (hooks.buildContent parsed scenario request))
    (latency : Value) (verdict : Verdict) :
    Tame (answerVerdict hooks scenario policy latency parsed request verdict) := by
  have fault : ∀ decide : ServeResult → Decided, ∀ built : Except PyError ServeResult,
      Tame (do
        let result ← (Flow.ofExcept built : Serving ServeResult)
        finish hooks scenario policy parsed (decide result)) := fun _ _ =>
    .bind (.ofExcept _) fun _ => finish_tame hooks scenario policy parsed _
  unfold answerVerdict
  cases verdict with
  | down => exact .bind (.leave Effect.noConfusion) fun _ => .ofExcept _
  | none =>
      exact .bind (succeed_tame scenario parsed request content latency) fun _ =>
        finish_tame hooks scenario policy parsed _
  | hang => exact fault _ _
  | drop dropAt => exact fault _ _
  | rateLimit body style => exact fault _ _
  | error status code message body => exact fault _ _

theorem answerParsed_tame (content : Tame (hooks.buildContent parsed scenario request)) :
    Tame (answerParsed hooks env scenario policy parsed request) := by
  unfold answerParsed
  refine .bind (.ofExcept _) fun cfg => ?_
  dsimp only
  split
  · exact .bind (.ofExcept _) fun _ => finish_tame hooks scenario policy parsed _
  · exact .bind (.ofExcept _) fun verdict =>
      answerVerdict_tame scenario policy parsed request content _ verdict

variable (site : Site)

/-- **The flow after the snapshot reads no more, if its parse hook does not.** -/
theorem answer_readFree (content : ∀ parsed scenario, Tame (hooks.buildContent parsed scenario request))
    (parse : Tame (hooks.parseRequest request)) :
    (answer site hooks env request scenario).ReadFree := by
  have free : ∀ {T : Type} {part : Serving T}, Tame part → part.ReadFree := fun tame =>
    tame.mono id fun _ _ => trivial
  unfold answer
  refine .bind (.ofExcept _) fun active => .bind (.leaveAll fun _ _ => trivial) fun _ =>
    .bind (.ofExcept _) fun resolved => ?_
  obtain ⟨targeted, mode⟩ := resolved
  dsimp only
  split
  · exact free (finishEarly_tame _ _ _ _)
  · refine .bind (free parse) fun parse => ?_
    cases parse with
    | direct result method label => exact free (finishEarly_tame _ _ _ _)
    | parseError text => exact free (finishEarly_tame _ _ _ _)
    | parsed request' => exact free (answerParsed_tame env scenario _ _ _ (content _ _))

theorem arrival_tame (arrived : Bool) : Tame (arrival hooks request arrived) := by
  have rows : ∀ effect ∈ (if arrived then [] else [Effect.recordArrival request.headers]),
      effect ≠ .consumeFail := by
    intro effect member
    split at member
    · cases member
    · rw [List.mem_singleton] at member
      rw [member]
      exact Effect.noConfusion
  have bodies : ∀ body ∈ (hooks.bodyForHistory request).toList.map Effect.recordBody, body ≠ .consumeFail := by
    intro effect member
    obtain ⟨body, -, rfl⟩ := List.mem_map.mp member
    exact Effect.noConfusion
  have paths : ∀ path ∈ (hooks.pathForHistory request).toList.map Effect.recordPath, path ≠ .consumeFail := by
    intro effect member
    obtain ⟨path, -, rfl⟩ := List.mem_map.mp member
    exact Effect.noConfusion
  unfold arrival
  exact .bind (.leaveAll rows) fun _ => .bind (.leaveAll bodies) fun _ => .leaveAll paths

end

end ProviderSimulator.Listeners
