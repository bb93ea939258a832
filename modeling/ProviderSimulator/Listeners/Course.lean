/-
**The requests that reach their chain.**

The flow of a request ends early when its provider is down, when its body is a batch, when its method has
a canned body, and when the fault ladder has a verdict. Only the others are answered by the chain.
`Reaches` says this of a JSON-RPC request, from its body, the stored block, the count and the draw.

* `rewrite_mem_answerParsed` and `rewrite_mem_answer` — the flow writes into the stored block only in the
  content hook of such a request.
-/

import Mathlib.Tactic.Common
import ProviderSimulator.Listeners.Reads

namespace ProviderSimulator.Listeners

open ProviderSimulator.Lib ProviderSimulator.Lib.Flow ProviderSimulator.Python ProviderSimulator.Domain
open ProviderSimulator.FaultPolicy (Verdict windowActive resolveMode ladder targets)
open ProviderSimulator.Chains (Parsed Content responsesOf)

/-! ### Who gets to the chain -/

/-- The block that the ladder reads: the fault keys of the entry lie over it. -/
def mergedWith (scenario : Scenario) (mode : Value) (cfg : List (Key × Value)) : Scenario :=
  if shadows cfg then merge scenario mode cfg else scenario

/-- The mode that the ladder reads. -/
def modeWith (scenario : Scenario) (mode : Value) (cfg : List (Key × Value)) : Value :=
  if shadows cfg then mergedWith scenario mode cfg .mode else mode

/-- A parsed request that the entry of its method and the ladder let through. -/
structure LetThrough (hooks : Hooks) (env : Env) (scenario : Scenario) (targeted : Bool) (mode : Value)
    (parsed : Parsed) (cfg : List (Key × Value)) : Prop where
  entry : entryFor scenario targeted (hooks.methodKey parsed) = .ok cfg
  plain : (if cfg.isEmpty then none else hooks.buildBodyOverride cfg) = none
  verdict : verdictFor targeted (modeWith scenario mode cfg) (mergedWith scenario mode cfg) env.roll =
    .ok .none

/-- **A JSON-RPC request that reaches its chain**: the provider is not down for it, its body parses, and
neither a canned body nor a fault answers it. -/
structure Reaches (site : Site) (env : Env) (request : RawRequest) (scenario : Scenario)
    (parsed : Parsed) : Prop where
  body : JsonRpc.parseRequest site request = .ok (.parsed parsed)
  through : ∃ targeted mode cfg, resolveMode scenario site.endpoint env.count = .ok (targeted, mode) ∧
    (targeted && mode.eqText "down") = false ∧
    LetThrough (JsonRpc.hooks site env) env scenario targeted mode parsed cfg

/-! ### What the flow leaves -/

section

variable {site : Site} {hooks : Hooks} {env : Env} {scenario found : Scenario} {policy : Policy}
  {parsed : Parsed} {request : RawRequest} {written : Value}

/-- A flow that leaves one row and ends. -/
theorem rewrite_not_mem_row {row : Effect} (other : row ≠ .rewriteDefault written)
    (result : Except PyError ServeResult) :
    Effect.rewriteDefault written ∉
      ((do Flow.leave row; Flow.ofExcept result : Serving ServeResult).outcomeAt found).effects := by
  intro member
  rcases mem_effects_bind.mp member with here | ⟨_, _, later⟩
  · exact other (List.mem_singleton.mp here).symm
  · rw [outcomeAt_ofExcept] at later
    cases later

theorem rewrite_not_mem_finish (decided : Decided) :
    Effect.rewriteDefault written ∉ ((finish hooks scenario policy parsed decided).outcomeAt found).effects := by
  unfold finish
  exact rewrite_not_mem_row Effect.noConfusion _

/-- A success leaves what its content leaves. -/
theorem rewrite_mem_succeed (latency : Value) :
    Effect.rewriteDefault written ∈ ((succeed hooks scenario latency parsed request >>= fun decided =>
      finish hooks scenario policy parsed decided).outcomeAt found).effects ↔
      Effect.rewriteDefault written ∈ ((hooks.buildContent parsed scenario request).outcomeAt found).effects := by
  have label : ∀ content : Value × Value, Effect.rewriteDefault written ∉
      ((do
        let result ← Flow.ofExcept (hooks.buildSuccess content.1 content.2)
        let label ← Flow.ofExcept (hooks.successLabel content.1 content.2 parsed)
        pure ({ result, label, requestId := (hooks.responseId content.2).orElse (hooks.requestId parsed), latency
          } : Decided) : Serving Decided).outcomeAt found).effects := by
    intro content member
    obtain ⟨_, _, later⟩ := mem_effects_ofExcept_bind.mp member
    obtain ⟨_, _, later⟩ := mem_effects_ofExcept_bind.mp later
    cases later
  rw [mem_effects_bind]
  constructor
  · rintro (member | ⟨decided, _, member⟩)
    · rcases mem_effects_bind.mp member with here | ⟨content, _, later⟩
      · exact here
      · exact absurd later (label content)
    · exact absurd member (rewrite_not_mem_finish decided)
  · exact fun member => .inl (mem_effects_bind.mpr (.inl member))

/-- **The verdict of the ladder**: only a request without one gets to the content hook. -/
theorem rewrite_mem_answerVerdict (latency : Value) (verdict : Verdict) :
    Effect.rewriteDefault written ∈
        ((answerVerdict hooks scenario policy latency parsed request verdict).outcomeAt found).effects ↔
      verdict = .none ∧
        Effect.rewriteDefault written ∈
          ((hooks.buildContent parsed scenario request).outcomeAt found).effects := by
  have fault : ∀ decide : ServeResult → Decided, ∀ built : Except PyError ServeResult,
      Effect.rewriteDefault written ∉ ((do
        let result ← (Flow.ofExcept built : Serving ServeResult)
        finish hooks scenario policy parsed (decide result)).outcomeAt found).effects := by
    intro decide built member
    obtain ⟨result, _, later⟩ := mem_effects_ofExcept_bind.mp member
    exact rewrite_not_mem_finish _ later
  cases verdict with
  | down => exact ⟨fun member => absurd member (rewrite_not_mem_row Effect.noConfusion _), nofun⟩
  | none => exact (rewrite_mem_succeed latency).trans ⟨fun member => ⟨rfl, member⟩, And.right⟩
  | hang => exact ⟨fun member => absurd member (fault _ _), nofun⟩
  | drop dropAt => exact ⟨fun member => absurd member (fault _ _), nofun⟩
  | rateLimit body style => exact ⟨fun member => absurd member (fault _ _), nofun⟩
  | error status code message body => exact ⟨fun member => absurd member (fault _ _), nofun⟩

/-- **A parsed request** gets to the content hook when it is let through. -/
theorem rewrite_mem_answerParsed :
    Effect.rewriteDefault written ∈
        ((answerParsed hooks env scenario policy parsed request).outcomeAt found).effects ↔
      (∃ cfg, LetThrough hooks env scenario policy.targeted policy.mode parsed cfg) ∧
        Effect.rewriteDefault written ∈
          ((hooks.buildContent parsed scenario request).outcomeAt found).effects := by
  unfold answerParsed
  rw [mem_effects_ofExcept_bind]
  constructor
  · rintro ⟨cfg, entry, later⟩
    dsimp only at later
    split at later
    · obtain ⟨decided, _, later⟩ := mem_effects_ofExcept_bind.mp later
      exact absurd later (rewrite_not_mem_finish decided)
    · next plain =>
        obtain ⟨verdict, given, later⟩ := mem_effects_ofExcept_bind.mp later
        obtain ⟨rfl, member⟩ := (rewrite_mem_answerVerdict _ verdict).mp later
        exact ⟨⟨cfg, entry, plain, given⟩, member⟩
  · rintro ⟨⟨cfg, entry, plain, given⟩, member⟩
    refine ⟨cfg, entry, ?_⟩
    dsimp only
    rw [plain]
    exact mem_effects_ofExcept_bind.mpr
      ⟨.none, given, (rewrite_mem_answerVerdict _ _).mpr ⟨rfl, member⟩⟩

theorem policy_targeted (scenario : Scenario) (targeted : Bool) (mode : Value) :
    (Listeners.policy scenario targeted mode).targeted = targeted := by
  unfold Listeners.policy
  cases targeted <;> rfl

theorem policy_mode (scenario : Scenario) (targeted : Bool) (mode : Value) :
    (Listeners.policy scenario targeted mode).mode = mode := by
  unfold Listeners.policy
  cases targeted <;> rfl

/-- A mode that resolves has read the window. -/
theorem windowActive_of_resolveMode {endpoint : Endpoint} {count : ℕ} {resolved : Bool × Value}
    (gave : resolveMode scenario endpoint count = .ok resolved) :
    ∃ active, windowActive scenario endpoint = .ok active := by
  unfold resolveMode at gave
  obtain ⟨_, -, later⟩ := ok_of_bind gave
  obtain ⟨active, window, -⟩ := ok_of_bind later
  exact ⟨active, window⟩

/-- The arrival of a request is always recorded. -/
theorem arrival_result (hooks : Hooks) (request : RawRequest) (arrived : Bool) (scenario : Scenario) :
    ((arrival hooks request arrived).outcomeAt scenario).result = .ok () := by
  unfold arrival
  refine result_bind.mpr ⟨(), by rw [outcomeAt_leaveAll], ?_⟩
  refine result_bind.mpr ⟨(), by rw [outcomeAt_leaveAll], ?_⟩
  rw [outcomeAt_leaveAll]

/-- The two JSON-RPC listeners differ in their content hook only. -/
theorem hooks_of_jsonrpc (json : site.endpoint.interface = .jsonrpc) :
    Listeners.hooks site env =
      { JsonRpc.hooks site env with buildContent := (Listeners.hooks site env).buildContent } := by
  unfold Listeners.hooks
  rw [json]
  cases site.endpoint.transport <;> rfl

/-- **The flow after the snapshot** gets to the content hook for a request that reaches its chain. -/
theorem rewrite_mem_answer (json : site.endpoint.interface = .jsonrpc) :
    Effect.rewriteDefault written ∈
        ((answer site (Listeners.hooks site env) env request scenario).outcomeAt found).effects ↔
      ∃ parsed, Reaches site env request scenario parsed ∧
        Effect.rewriteDefault written ∈
          (((Listeners.hooks site env).buildContent parsed scenario request).outcomeAt found).effects := by
  rw [hooks_of_jsonrpc json]
  unfold answer
  rw [mem_effects_ofExcept_bind]
  constructor
  · rintro ⟨active, window, later⟩
    rcases mem_effects_leaveAll_bind.mp later with counted | later
    · split at counted
      · cases List.mem_singleton.mp counted
      · cases counted
    obtain ⟨⟨targeted, mode⟩, resolved, later⟩ := mem_effects_ofExcept_bind.mp later
    dsimp only at later
    split at later
    · exact absurd later (rewrite_not_mem_row Effect.noConfusion _)
    · next up =>
        obtain ⟨parse, gave, later⟩ := mem_effects_ofExcept_bind.mp later
        cases parse with
        | direct result method label => exact absurd later (rewrite_not_mem_row Effect.noConfusion _)
        | parseError text => exact absurd later (rewrite_not_mem_row Effect.noConfusion _)
        | parsed parsed =>
            obtain ⟨⟨cfg, through⟩, member⟩ := rewrite_mem_answerParsed.mp later
            rw [policy_targeted, policy_mode] at through
            exact ⟨parsed, ⟨gave, targeted, mode, cfg, resolved, Bool.eq_false_iff.mpr up,
              through.entry, through.plain, through.verdict⟩, member⟩
  · rintro ⟨parsed, ⟨gave, targeted, mode, cfg, resolved, up, through⟩, member⟩
    obtain ⟨active, window⟩ := windowActive_of_resolveMode resolved
    refine ⟨active, window, mem_effects_leaveAll_bind.mpr (.inr ?_)⟩
    refine mem_effects_ofExcept_bind.mpr ⟨(targeted, mode), resolved, ?_⟩
    dsimp only
    rw [up, if_neg Bool.false_ne_true]
    refine mem_effects_ofExcept_bind.mpr ⟨.parsed parsed, gave, ?_⟩
    refine rewrite_mem_answerParsed.mpr ⟨⟨cfg, ?_⟩, member⟩
    rw [policy_targeted, policy_mode]
    exact ⟨through.entry, through.plain, through.verdict⟩

end

end ProviderSimulator.Listeners
