/-
**When a JSON-RPC request is served to its end.**

A request that raises anywhere in its flow gets no reply, and its history row stays `in_flight`. Every part
of the flow that finishes the row also returns, for the shapes that a stored block is known to have
(`Control.Shaped`). What is left are the values that nothing checks: a body that is nested too deep for the
reader, a method that is a list or an object, an `error_probability` of an entry that is no number, and the
values that the chain reads (`Chains.Eth.Answers` and the like).

* `answerParsed_returns` — the flow after the parse;
* `served_to_its_end_iff` — a request is served to its end exactly when none of these stops it.
-/

import Mathlib.Tactic.Common
import ProviderSimulator.Chains.CoinAnswers
import ProviderSimulator.Chains.EthAnswers
import ProviderSimulator.Control.StoredShapes
import ProviderSimulator.Listeners.Course
import ProviderSimulator.Listeners.Scope

namespace ProviderSimulator.Listeners

open ProviderSimulator.Lib ProviderSimulator.Lib.Flow ProviderSimulator.Python ProviderSimulator.Domain
open ProviderSimulator.FaultPolicy (Verdict windowActive resolveMode ladder ladderRolls targets)
open ProviderSimulator.Chains (Parsed Content Gives responsesOf)

/-! ### The history row -/

/-- The status of the row of a request, which arrives `in_flight`. -/
def rowStatus (effects : List Effect) : String :=
  effects.foldl (fun status effect =>
    match effect with
    | .finalize _ label _ _ => label.name
    | _ => status) "in_flight"

/-- The effect finishes the row. -/
def Finishes (effect : Effect) : Prop := ∃ method label latency id, effect = .finalize method label latency id

theorem Label.name_ne (label : Label) : label.name ≠ "in_flight" := by
  cases label <;> decide

/-- **A row is finished once the flow finishes it.** -/
theorem rowStatus_ne {effects : List Effect} (finished : ∃ effect ∈ effects, Finishes effect) :
    rowStatus effects ≠ "in_flight" := by
  -- The status is finished at the start of the rest, or the rest finishes it.
  have from_any : ∀ (effects : List Effect) (status : String), (status ≠ "in_flight" ∨ ∃ effect ∈ effects, Finishes effect) →
      effects.foldl (fun status effect =>
        match effect with
        | .finalize _ label _ _ => label.name
        | _ => status) status ≠ "in_flight" := by
    intro effects
    induction effects with
    | nil => exact fun status either => either.elim id fun ⟨_, member, _⟩ => absurd member List.not_mem_nil
    | cons effect rest ih =>
        intro status either
        refine ih _ ?_
        rcases either with finished | ⟨other, member, finishes⟩
        · left
          dsimp only
          split
          · exact Label.name_ne _
          · exact finished
        · rcases List.mem_cons.mp member with rfl | later
          · obtain ⟨method, label, latency, id, rfl⟩ := finishes
            exact .inl (Label.name_ne label)
          · exact .inr ⟨other, later, finishes⟩
  exact from_any _ _ (.inr finished)

/-! ### Parts of the flow that always return -/

/-- The chosen headers and trailers of a request are objects. -/
structure Sends (policy : Policy) : Prop where
  chosen : policy.chosen.isDict = true
  trailers : policy.trailers.isDict = true

theorem orElse_isDict {value : Value} (chosen : Control.isChosen value = true) :
    (value.orElse (.dict [])).isDict = true := by
  cases value with
  | none => rfl
  | dict entries => cases entries <;> rfl
  | _ => cases chosen

theorem policy_sends {scenario : Scenario} (shaped : Control.Shaped scenario) (targeted : Bool) (mode : Value) :
    Sends (Listeners.policy scenario targeted mode) := by
  cases targeted with
  | false => exact ⟨rfl, rfl⟩
  | true => exact ⟨orElse_isDict shaped.headers, orElse_isDict shaped.trailers⟩

theorem asDict_gives {value : Value} (object : value.isDict = true) : asDict value = .ok value := by
  cases value with
  | dict entries => rfl
  | _ => cases object

theorem withReplyHeaders_gives {policy : Policy} (sends : Sends policy) (result : ServeResult) :
    Gives (withReplyHeaders result policy.chosen policy.trailers) := by
  have trailers : (policy.trailers.orElse (.dict [])).isDict = true := by
    unfold Value.orElse
    split
    · exact sends.trailers
    · rfl
  unfold withReplyHeaders
  rw [asDict_gives sends.chosen, asDict_gives trailers]
  split
  · exact Chains.gives_ok _
  · exact Chains.gives_ok _

section

variable {site : Site} {hooks : Hooks} {env : Env} {scenario found : Scenario} {policy : Policy}
  {parsed : Parsed} {request : RawRequest}

theorem finish_returns (sends : Sends policy) (decided : Decided) :
    (finish hooks scenario policy parsed decided).Returns found := by
  unfold finish
  exact returns_leave_bind.mpr (returns_ofExcept.mpr (withReplyHeaders_gives sends _))

theorem finish_closes (decided : Decided) :
    (finish hooks scenario policy parsed decided).Closes Finishes found :=
  Closes.leave ⟨_, _, _, _, rfl⟩ _

theorem finishEarly_returns (sends : Sends policy) (method : String) (label : Label) (result : ServeResult) :
    (finishEarly policy method label result).Returns found :=
  returns_leave_bind.mpr (returns_ofExcept.mpr (withReplyHeaders_gives sends _))

theorem finishEarly_closes (method : String) (label : Label) (result : ServeResult) :
    (finishEarly policy method label result).Closes Finishes found :=
  Closes.leave ⟨_, _, _, _, rfl⟩ _

/-- The content is there if the chain answers. -/
theorem content_returns (request : RawRequest) :
    (buildContent site env parsed scenario request).Returns found ↔
      Gives (Chains.buildSuccess site.host site.reader site.chain site.endpoint.interface parsed scenario
        env.quirks env.head) := by
  refine (returns_bind_of_forall fun content => ⟨_, rfl⟩).trans ?_
  unfold chainContent
  rw [returns_ofExcept_bind]
  refine exists_congr fun content => and_iff_left ?_
  exact returns_leaveAll_bind.mpr ⟨content, rfl⟩

/-- **A verdict** other than none is answered, and no verdict is answered when the chain answers. -/
theorem answerVerdict_returns (sends : Sends policy) (latency : Value) (verdict : Verdict) :
    (answerVerdict (JsonRpc.hooks site env) scenario policy latency parsed request verdict).Returns found ↔
      (verdict = .none → Gives (Chains.buildSuccess site.host site.reader site.chain site.endpoint.interface
        parsed scenario env.quirks env.head)) := by
  have fault : ∀ decide : ServeResult → Decided, ∀ built : ServeResult, (do
      let result ← (Flow.ofExcept (.ok built) : Serving ServeResult)
      finish (JsonRpc.hooks site env) scenario policy parsed (decide result)).Returns found :=
    fun decide built => returns_ofExcept_bind.mpr ⟨built, rfl, finish_returns sends _⟩
  cases verdict with
  | down =>
      refine ⟨fun _ => nofun, fun _ => ?_⟩
      exact returns_leave_bind.mpr (returns_ofExcept.mpr (withReplyHeaders_gives sends _))
  | none =>
      refine (returns_bind_of_forall fun decided => finish_returns sends decided).trans ?_
      refine (returns_bind_of_forall fun content => ?_).trans ?_
      · exact returns_ofExcept_bind.mpr ⟨_, rfl, returns_ofExcept_bind.mpr ⟨_, rfl, _, rfl⟩⟩
      · exact (content_returns request).trans ⟨fun gives _ => gives, fun needs => needs rfl⟩
  | hang => exact ⟨fun _ => nofun, fun _ => fault _ _⟩
  | drop dropAt => exact ⟨fun _ => nofun, fun _ => fault _ _⟩
  | rateLimit body style => exact ⟨fun _ => nofun, fun _ => fault _ _⟩
  | error status code message body => exact ⟨fun _ => nofun, fun _ => fault _ _⟩

theorem answerVerdict_closes (latency : Value) (verdict : Verdict) :
    (answerVerdict hooks scenario policy latency parsed request verdict).Closes Finishes found := by
  cases verdict with
  | down => exact Closes.leave ⟨_, _, _, _, rfl⟩ _
  | _ => exact Closes.bind fun decided => finish_closes _

end

/-! ### The ladder -/

section

variable {scenario : Scenario} {mode : Value} {cfg : List (Key × Value)} {roll : ℚ}

theorem exceeds_gives {value : Value} : Gives (value.exceeds roll) ↔ value.number.isSome = true := by
  cases value with
  | bool flag => exact ⟨fun _ => rfl, fun _ => Chains.gives_ok _⟩
  | int number => exact ⟨fun _ => rfl, fun _ => Chains.gives_ok _⟩
  | float number => cases number <;> exact ⟨fun _ => rfl, fun _ => Chains.gives_ok _⟩
  | _ => exact ⟨fun gave => absurd gave (Chains.not_gives_error _), nofun⟩

/-- **The ladder** needs a number only for a mode that it rolls for. -/
theorem ladder_gives {merged : Scenario} :
    Gives (ladder mode merged roll) ↔
      (ladderRolls mode = true → (merged .errorProbability).number.isSome = true) := by
  have fixed : ∀ word ∈ FaultPolicy.ladderFixed, mode.eqText word = true → ladderRolls mode = false := by
    intro word member same
    unfold ladderRolls
    rw [List.any_eq_true.mpr ⟨word, member, same⟩]
    rfl
  have quiet : ∀ word ∈ FaultPolicy.ladderFixed, mode.eqText word = true → ∀ verdict : Verdict,
      (Gives (.ok verdict : Except PyError Verdict) ↔
        (ladderRolls mode = true → (merged .errorProbability).number.isSome = true)) := by
    intro word member same verdict
    refine ⟨fun _ rolls => ?_, fun _ => Chains.gives_ok _⟩
    rw [fixed word member same] at rolls
    cases rolls
  unfold ladder
  split
  · next same => exact quiet "down" (by decide) same _
  split
  · next same => exact quiet "hang" (by decide) same _
  split
  · next same => exact quiet "drop_connection" (by decide) same _
  split
  · next same => exact quiet "rate_limit" (by decide) same _
  split
  · next same => exact quiet "error" (by decide) same _
  next down hang drop limit error =>
    have rolls : ladderRolls mode = true := by
      unfold ladderRolls FaultPolicy.ladderFixed
      simp [down, hang, drop, limit, error]
    rw [Chains.gives_bind_of_forall, exceeds_gives]
    · exact ⟨fun number _ => number, fun needs => needs rolls⟩
    · intro above _
      split
      · exact Chains.gives_ok _
      · exact Chains.gives_ok _

/-- The probability that the ladder reads. -/
theorem mergedWith_probability :
    mergedWith scenario mode cfg .errorProbability =
      (Dict.get cfg (.text "error_probability")).getD (scenario .errorProbability) := by
  unfold mergedWith
  split
  · rfl
  · next plain =>
      have absent : Dict.get cfg (.text "error_probability") = none := by
        rw [← Option.not_isSome_iff_eq_none]
        exact fun given => plain (List.any_eq_true.mpr ⟨.errorProbability, by decide, given⟩)
      rw [absent]
      rfl

/-- Where the ladder rolls a number for the request, the probability that its entry gives is a number. -/
def Rolled (scenario : Scenario) (targeted : Bool) (mode : Value) (cfg : List (Key × Value)) : Prop :=
  targeted = true → ladderRolls (modeWith scenario mode cfg) = true →
    ∀ chance, Dict.get cfg (.text "error_probability") = some chance → chance.number.isSome = true

theorem number_of_isProbability {value : Value} (probability : Control.isProbability value = true) :
    value.number.isSome = true := by
  cases value with
  | int number => rfl
  | float number => rfl
  | _ => cases probability

theorem verdictFor_gives (shaped : Control.Shaped scenario) (targeted : Bool) :
    Gives (verdictFor targeted (modeWith scenario mode cfg) (mergedWith scenario mode cfg) roll) ↔
      Rolled scenario targeted mode cfg := by
  cases targeted with
  | false => exact ⟨fun _ => nofun, fun _ => Chains.gives_ok _⟩
  | true =>
      refine ladder_gives.trans ?_
      rw [mergedWith_probability]
      unfold Rolled
      cases Dict.get cfg (.text "error_probability") with
      | none => exact ⟨fun _ _ _ => nofun, fun _ _ => number_of_isProbability shaped.probability⟩
      | some chance =>
          refine ⟨fun needs _ rolls other same => ?_, fun needs rolls => needs rfl rolls chance rfl⟩
          cases same
          exact needs rolls

/-! ### The entry of a request -/

/-- The entries of a block. -/
def entriesOf (scenario : Scenario) : List (Key × Value) :=
  match responsesOf scenario with
  | .dict entries => entries
  | _ => []

theorem responsesOf_eq (shaped : Control.Shaped scenario) :
    scenario .responses = .dict (entriesOf scenario) ∧ responsesOf scenario = .dict (entriesOf scenario) := by
  obtain ⟨entries, given, -⟩ := shaped.responses
  have same : responsesOf scenario = .dict entries := by
    unfold responsesOf
    rw [given]
    cases entries <;> rfl
  have named : entriesOf scenario = entries := by
    unfold entriesOf
    rw [same]
  rw [named]
  exact ⟨given, same⟩

/-- The method of a request, and the name under which its row shows it, can both be hashed or neither. -/
theorem hashable_get (parsed : Parsed) :
    (parsed.getD "method" (.str "unknown")).hashable = (parsed.get "method").hashable := by
  unfold Parsed.getD Parsed.get
  cases parsed.fields.get "method" with
  | none => rfl
  | some method => rfl

/-- **The entry of a request** is found if its method can be hashed. An entry that is not empty is the one
of its name. -/
theorem entryFor_gives (shaped : Control.Shaped scenario) (targeted : Bool) {parsed : Parsed}
    (hashable : (parsed.get "method").hashable = true) :
    ∃ cfg, entryFor scenario targeted (methodKey parsed) = .ok cfg ∧
      (cfg = [] ∨ ∃ name, Dict.get (entriesOf scenario) (.text name) = some (.dict cfg)) := by
  cases targeted with
  | false => exact ⟨[], rfl, .inl rfl⟩
  | true =>
      have scalar : ∀ method : Value, method.isStr = false → method.hashable = true →
          getMethod (responsesOf scenario) (.value method) = .ok none := by
        intro method other hashable
        rw [(responsesOf_eq shaped).2]
        cases method with
        | str name => cases other
        | list items => cases hashable
        | dict entries => cases hashable
        | _ => rfl
      have unnamed : ∀ method : Value, method.isStr = false → method.hashable = true →
          methodCfg scenario (some (.value method)) = .ok [] := by
        intro method other hashable
        dsimp only [methodCfg]
        rw [scalar method other hashable]
        rfl
      unfold entryFor methodKey
      cases method : parsed.get "method" with
      | str name =>
          have read : getMethod (responsesOf scenario) (.value (.str name)) =
              .ok (Dict.get (entriesOf scenario) (.text name)) := by
            rw [(responsesOf_eq shaped).2]
            rfl
          show ∃ cfg, methodCfg scenario (some (.value (.str name))) = .ok cfg ∧ _
          dsimp only [methodCfg]
          rw [read]
          cases found : Dict.get (entriesOf scenario) (.text name) with
          | none => exact ⟨[], rfl, .inl rfl⟩
          | some entry =>
              cases entry with
              | dict cfg => exact ⟨cfg, rfl, .inr ⟨name, found⟩⟩
              | _ => exact ⟨[], rfl, .inl rfl⟩
      | none => exact ⟨[], rfl, .inl rfl⟩
      | bool flag => exact ⟨[], unnamed (.bool flag) rfl rfl, .inl rfl⟩
      | int number => exact ⟨[], unnamed (.int number) rfl rfl, .inl rfl⟩
      | float number => exact ⟨[], unnamed (.float number) rfl rfl, .inl rfl⟩
      | list items =>
          rw [method] at hashable
          cases hashable
      | dict entries =>
          rw [method] at hashable
          cases hashable

/-- A method that has no hash is not looked up. -/
theorem hashable_of_entryFor (shaped : Control.Shaped scenario) {parsed : Parsed}
    (gave : entryFor scenario true (methodKey parsed) = .ok cfg) : (parsed.get "method").hashable = true := by
  have read : ∀ method, (parsed.get "method" = method) → method.isNone = false →
      Gives (getMethod (responsesOf scenario) (.value method)) := by
    intro method same given
    unfold entryFor methodKey at gave
    rw [same] at gave
    dsimp only at gave
    rw [given] at gave
    obtain ⟨entry, found, -⟩ := ok_of_bind gave
    exact ⟨entry, found⟩
  rw [(responsesOf_eq shaped).2] at read
  cases method : parsed.get "method" with
  | list items => exact absurd (read _ method rfl) (Chains.not_gives_error _)
  | dict entries => exact absurd (read _ method rfl) (Chains.not_gives_error _)
  | _ => rfl

/-- The status of a canned reply is a whole number. -/
theorem canned_status {name : String} (passed : Control.badCannedBody name cfg = .ok ()) {result : ServeResult}
    (canned : bodyOverride cfg = some result) : ∃ status, result.status = .int status := by
  unfold Control.badCannedBody at passed
  unfold bodyOverride at canned
  cases body : Dict.get cfg (.text "body") with
  | none =>
      rw [body] at canned
      cases canned
  | some value =>
      rw [body] at passed canned
      dsimp only at passed canned
      split at canned
      · cases canned
      · cases canned
        obtain ⟨_, -, passed⟩ := bind_eq_ok passed
        obtain ⟨_, -, passed⟩ := bind_eq_ok passed
        obtain ⟨_, status, -⟩ := bind_eq_ok passed
        have number : Control.isCannedStatus ((Dict.get cfg (.text "status")).getD (.int 200)) = true := by
          simpa using refuseIf_eq_ok status
        unfold Control.isCannedStatus at number
        cases given : (Dict.get cfg (.text "status")).getD (.int 200) with
        | int status => exact ⟨status, rfl⟩
        | _ =>
            rw [given] at number
            cases number

end

/-! ### Requests that are served to their end -/

section

variable {site : Site} {env : Env} {scenario found : Scenario} {policy : Policy} {parsed : Parsed}
  {request : RawRequest}

theorem cannedReply_gives {hooks : Hooks} {status : ℤ} {result : ServeResult} (number : result.status = .int status)
    (latency : Value) : Gives (cannedReply hooks latency parsed result) := by
  have compared : Gives (isSuccess result.status) := by
    rw [number]
    unfold isSuccess
    refine (Chains.gives_bind_of_forall fun above _ => ?_).mpr (Chains.lessEq_gives rfl rfl)
    split
    · exact Chains.less_gives.mpr ⟨rfl, rfl⟩
    · exact Chains.gives_ok _
  exact (Chains.gives_bind_of_forall fun _ _ => Chains.gives_ok _).mpr compared

/-- **The flow after the parse** returns if the method can be hashed and, where no canned body answers, the
ladder has its number and, where it lets the request through, the chain answers. -/
theorem answerParsed_returns (shaped : Control.Shaped scenario) (sends : Sends policy) :
    (answerParsed (JsonRpc.hooks site env) env scenario policy parsed request).Returns found ↔
      ∃ cfg, entryFor scenario policy.targeted (methodKey parsed) = .ok cfg ∧
        ((if cfg.isEmpty then none else bodyOverride cfg) = none →
          ∃ verdict, verdictFor policy.targeted (modeWith scenario policy.mode cfg)
              (mergedWith scenario policy.mode cfg) env.roll = .ok verdict ∧
            (verdict = .none → Gives (Chains.buildSuccess site.host site.reader site.chain
              site.endpoint.interface parsed scenario env.quirks env.head))) := by
  unfold answerParsed
  rw [returns_ofExcept_bind]
  refine exists_congr fun cfg => and_congr_right fun entry => ?_
  have canned : ∀ result, (if cfg.isEmpty then none else bodyOverride cfg) = some result →
      ∃ status, result.status = .int status := by
    intro result given
    split at given
    · cases given
    · next filled =>
        have hashable : (parsed.get "method").hashable = true := by
          cases targeted : policy.targeted with
          | true =>
              rw [targeted] at entry
              exact hashable_of_entryFor shaped entry
          | false =>
              rw [targeted] at entry
              cases entry
              exact absurd rfl filled
        obtain ⟨other, again, named⟩ := entryFor_gives shaped policy.targeted hashable
        obtain rfl : cfg = other := Except.ok.inj (entry.symm.trans again)
        rcases named with rfl | ⟨name, stored⟩
        · exact absurd rfl filled
        · obtain ⟨entries, responses, passed⟩ := shaped.responses
          cases (responsesOf_eq shaped).1.symm.trans responses
          exact canned_status (passed name cfg stored) given
  dsimp only
  split
  · next result given =>
      obtain ⟨status, number⟩ := canned result given
      refine ⟨fun _ absent => absurd (given.symm.trans absent) nofun, fun _ => ?_⟩
      obtain ⟨decided, replied⟩ : Gives (cannedReply (JsonRpc.hooks site env)
        (if shadows cfg then mergedWith scenario policy.mode cfg .latencyMs else policy.latency) parsed result) :=
          cannedReply_gives number _
      exact returns_ofExcept_bind.mpr ⟨decided, replied, finish_returns sends _⟩
  · next absent =>
      rw [returns_ofExcept_bind]
      refine ⟨fun returned _ => ?_, fun needs => ?_⟩
      · obtain ⟨verdict, given, later⟩ := returned
        exact ⟨verdict, given, (answerVerdict_returns sends _ verdict).mp later⟩
      · obtain ⟨verdict, given, answered⟩ := needs absent
        exact ⟨verdict, given, (answerVerdict_returns sends _ verdict).mpr answered⟩

theorem answerParsed_closes {hooks : Hooks} :
    (answerParsed hooks env scenario policy parsed request).Closes Finishes found := by
  unfold answerParsed
  refine Closes.bind fun cfg => ?_
  dsimp only
  split
  · exact Closes.bind fun decided => finish_closes decided
  · exact Closes.bind fun verdict => answerVerdict_closes _ verdict

/-- The chain of the endpoint has what it needs. The chains without JSON-RPC answer no such request. -/
def Answers (site : Site) (env : Env) (scenario : Scenario) (parsed : Parsed) : Prop :=
  match site.chain with
  | .eth => Chains.Eth.Answers site.host parsed scenario env.quirks env.head (entriesOf scenario)
  | .btc => Chains.Btc.Answers site.host parsed scenario env.head (entriesOf scenario)
  | .ln => Chains.Ln.Answers site.host parsed scenario env.head (entriesOf scenario)
  | .solana => Chains.Solana.Answers site.host parsed env.quirks env.head (entriesOf scenario)
  | _ => False

theorem answers_iff (json : site.endpoint.interface = .jsonrpc) (shaped : Control.Shaped scenario)
    (plain : parsed.graphql = none) (hashable : (parsed.get "method").hashable = true) :
    Gives (Chains.buildSuccess site.host site.reader site.chain site.endpoint.interface parsed scenario
      env.quirks env.head) ↔ Answers site env scenario parsed := by
  have responses := (responsesOf_eq shaped).2
  rw [← hashable_get] at hashable
  have sui : ¬ Gives (Chains.Sui.buildSuccess site.host site.reader parsed scenario env.quirks env.head) := by
    unfold Chains.Sui.buildSuccess
    rw [plain]
    exact Chains.not_gives_error _
  rw [json]
  unfold Answers
  cases site.chain with
  | eth => exact Chains.Eth.gives_iff responses hashable
  | btc => exact Chains.Btc.gives_iff responses hashable
  | ln => exact Chains.Ln.gives_iff responses hashable
  | solana => exact Chains.Solana.gives_iff responses hashable
  | lava => exact ⟨fun gave => absurd gave (Chains.not_gives_error _), False.elim⟩
  | sui => exact ⟨fun gave => absurd gave sui, False.elim⟩
  | suit => exact ⟨fun gave => absurd gave sui, False.elim⟩

/-- **What a parsed request needs** of its method, of the entry of its method, and of its chain. -/
structure Fits (site : Site) (env : Env) (scenario : Scenario) (targeted : Bool) (mode : Value)
    (parsed : Parsed) : Prop where
  hashable : (parsed.get "method").hashable = true
  rolled : ∀ cfg, entryFor scenario targeted (methodKey parsed) = .ok cfg →
    (if cfg.isEmpty then none else bodyOverride cfg) = none → Rolled scenario targeted mode cfg
  answered : ∀ cfg, LetThrough (JsonRpc.hooks site env) env scenario targeted mode parsed cfg →
    Answers site env scenario parsed

/-- A method that has no hash is answered by no chain. -/
theorem hashable_of_gives (json : site.endpoint.interface = .jsonrpc) (plain : parsed.graphql = none)
    (gave : Gives (Chains.buildSuccess site.host site.reader site.chain site.endpoint.interface parsed scenario
      env.quirks env.head)) : (parsed.get "method").hashable = true := by
  cases hashable : (parsed.get "method").hashable with
  | true => rfl
  | false =>
      obtain ⟨error, raised⟩ := chains_unhashable ⟨json, plain, hashable⟩ scenario env.quirks env.head
      rw [raised] at gave
      exact absurd gave (Chains.not_gives_error _)

/-- **The flow after the parse** returns for the requests that have what they need. -/
theorem fits_iff (json : site.endpoint.interface = .jsonrpc) (shaped : Control.Shaped scenario)
    (plain : parsed.graphql = none) (sends : Sends policy) :
    (answerParsed (JsonRpc.hooks site env) env scenario policy parsed request).Returns found ↔
      Fits site env scenario policy.targeted policy.mode parsed := by
  rw [answerParsed_returns shaped sends]
  constructor
  · rintro ⟨cfg, entry, needs⟩
    have hashable : (parsed.get "method").hashable = true := by
      cases targeted : policy.targeted with
      | true =>
          rw [targeted] at entry
          exact hashable_of_entryFor shaped entry
      | false =>
          rw [targeted] at entry needs
          cases entry
          obtain ⟨verdict, given, answered⟩ := needs rfl
          cases given
          exact hashable_of_gives json plain (answered rfl)
    refine ⟨hashable, fun other again absent => ?_, fun other through => ?_⟩
    · cases entry.symm.trans again
      obtain ⟨verdict, given, -⟩ := needs absent
      exact (verdictFor_gives shaped _).mp ⟨verdict, given⟩
    · cases entry.symm.trans through.entry
      obtain ⟨verdict, given, answered⟩ := needs through.plain
      cases given.symm.trans through.verdict
      exact (answers_iff json shaped plain hashable).mp (answered rfl)
  · intro fits
    obtain ⟨cfg, entry, -⟩ := entryFor_gives shaped policy.targeted fits.hashable
    refine ⟨cfg, entry, fun absent => ?_⟩
    obtain ⟨verdict, given⟩ := (verdictFor_gives shaped _).mpr (fits.rolled cfg entry absent)
    refine ⟨verdict, given, ?_⟩
    rintro rfl
    exact (answers_iff json shaped plain fits.hashable).mpr (fits.answered cfg ⟨entry, absent, given⟩)

end

/-- The JSON reader has room for the body. -/
def Readable (site : Site) (request : RawRequest) : Prop :=
  request.body = [] ∨ site.host.loads request.body ≠ .error .recursion

/-- **The requests that are served to their end**: the provider is down for the request, or the reader has
room for its body and, if it is no batch, it has what it needs. -/
def Serves (site : Site) (env : Env) (request : RawRequest) (scenario : Scenario) : Prop :=
  ∃ targeted mode, resolveMode scenario site.endpoint env.count = .ok (targeted, mode) ∧
    ((targeted && mode.eqText "down") = true ∨
      Readable site request ∧ ∀ parsed, JsonRpc.parseRequest site request = .ok (.parsed parsed) →
        Fits site env scenario targeted mode parsed)

/-- `serve` returns a result, and the row of the request does not stay `in_flight`. -/
def ServedToItsEnd (site : Site) (env : Env) (request : RawRequest) (arrived : Bool) (scenario : Scenario) :
    Prop :=
  (∃ result, ((serveAt site env request arrived).outcomeAt scenario).result = .ok result) ∧
    rowStatus ((serveAt site env request arrived).outcomeAt scenario).effects ≠ "in_flight"

section

variable {site : Site} {env : Env} {request : RawRequest} {scenario found : Scenario}

theorem parse_gives : Gives (JsonRpc.parseRequest site request) ↔ Readable site request := by
  unfold JsonRpc.parseRequest Readable
  cases body : request.body with
  | nil => exact ⟨fun _ => .inl rfl, fun _ => Chains.gives_ok _⟩
  | cons byte rest =>
      have filled : byte :: rest ≠ [] := List.cons_ne_nil byte rest
      rw [if_neg (by exact Bool.false_ne_true)]
      cases site.host.loads (byte :: rest) with
      | ok value =>
          refine ⟨fun _ => .inr nofun, fun _ => ?_⟩
          cases value <;> exact Chains.gives_ok _
      | error error =>
          cases error with
          | recursion =>
              refine ⟨fun gave => absurd gave (Chains.not_gives_error _), ?_⟩
              exact fun either => either.elim (fun empty => absurd empty filled) fun shallow => absurd rfl shallow
          | _ => exact ⟨fun _ => .inr nofun, fun _ => Chains.gives_ok _⟩

/-- A JSON-RPC request has no document. -/
theorem parse_plain {parsed : Parsed} (gave : JsonRpc.parseRequest site request = .ok (.parsed parsed)) :
    parsed.graphql = none := by
  unfold JsonRpc.parseRequest at gave
  split at gave
  · cases gave
    rfl
  · split at gave
    · cases gave
    · cases gave
      rfl
    · cases gave
    · cases gave
      rfl
    · cases gave
      rfl

/-- A block that is stored resolves the mode of every request. -/
theorem resolveMode_gives (stored : StoredFilters scenario) (counted : Control.Counted scenario)
    (endpoint : Endpoint) (count : ℕ) : Gives (resolveMode scenario endpoint count) := by
  obtain ⟨targeted, inScope⟩ := FaultPolicy.targets_of_stored stored endpoint
  obtain ⟨limit, number⟩ := counted.number
  have active : windowActive scenario endpoint = .ok (decide ((0 : ℚ) < limit) && targeted) := by
    unfold windowActive
    rw [inScope, number]
    rfl
  unfold resolveMode
  rw [inScope, active, number, ok_bind, ok_bind]
  dsimp only
  split
  · cases targeted <;> exact Chains.gives_ok _
  · cases targeted <;> exact Chains.gives_ok _

/-- **The flow after the snapshot.** -/
theorem answer_returns (json : site.endpoint.interface = .jsonrpc) (shaped : Control.Shaped scenario)
    (stored : StoredFilters scenario) :
    (answer site (JsonRpc.hooks site env) env request scenario).Returns found ↔
      Serves site env request scenario := by
  obtain ⟨⟨targeted, mode⟩, resolved⟩ := resolveMode_gives stored shaped.counted site.endpoint env.count
  obtain ⟨active, window⟩ := windowActive_of_resolveMode resolved
  have sends := policy_sends shaped targeted mode
  have serves : Serves site env request scenario ↔ ((targeted && mode.eqText "down") = true ∨
      Readable site request ∧ ∀ parsed, JsonRpc.parseRequest site request = .ok (.parsed parsed) →
        Fits site env scenario targeted mode parsed) := by
    constructor
    · rintro ⟨_, _, again, either⟩
      cases resolved.symm.trans again
      exact either
    · exact fun either => ⟨targeted, mode, resolved, either⟩
  rw [serves]
  unfold answer
  rw [window, resolved]
  refine returns_leaveAll_bind.trans ?_
  rw [Flow.ofExcept_ok, Flow.done_bind]
  dsimp only
  split
  · next down => exact ⟨fun _ => .inl down, fun _ => finishEarly_returns sends _ _ _⟩
  · next up =>
      have fits : ∀ parsed, JsonRpc.parseRequest site request = .ok (.parsed parsed) →
          ((answerParsed (JsonRpc.hooks site env) env scenario (Listeners.policy scenario targeted mode) parsed
            request).Returns found ↔ Fits site env scenario targeted mode parsed) := by
        intro parsed gave
        refine (fits_iff json shaped (parse_plain gave) sends).trans ?_
        rw [policy_targeted, policy_mode]
      have reading : (JsonRpc.hooks site env).parseRequest request =
          Flow.ofExcept (JsonRpc.parseRequest site request) := rfl
      rw [or_iff_right up, ← parse_gives, reading, returns_ofExcept_bind]
      constructor
      · rintro ⟨parse, gave, returned⟩
        refine ⟨⟨parse, gave⟩, fun parsed again => ?_⟩
        cases gave.symm.trans again
        exact (fits parsed again).mp returned
      · rintro ⟨⟨parse, gave⟩, needs⟩
        refine ⟨parse, gave, ?_⟩
        cases parse with
        | direct result method label => exact finishEarly_returns sends _ _ _
        | parseError text => exact finishEarly_returns sends _ _ _
        | parsed parsed => exact (fits parsed gave).mpr (needs parsed gave)

theorem answer_closes : (answer site (JsonRpc.hooks site env) env request scenario).Closes Finishes found := by
  unfold answer
  refine Closes.bind fun active => Closes.bind fun _ => Closes.bind fun resolved => ?_
  dsimp only
  split
  · exact finishEarly_closes _ _ _
  · refine Closes.bind fun parse => ?_
    cases parse with
    | direct result method label => exact finishEarly_closes _ _ _
    | parseError text => exact finishEarly_closes _ _ _
    | parsed parsed => exact answerParsed_closes

/-- A request is served to its end if the flow after its snapshot returns. -/
theorem servedToItsEnd_iff_returns (json : site.endpoint.interface = .jsonrpc)
    (http : site.endpoint.transport = .http) (arrived : Bool) :
    ServedToItsEnd site env request arrived scenario ↔
      (answer site (JsonRpc.hooks site env) env request scenario).Returns scenario := by
  have listener : Listeners.hooks site env = JsonRpc.hooks site env := by
    unfold Listeners.hooks
    rw [json, http]
  have last : ∀ result, (if site.endpoint.interface = .rest then pure (Rest.withholdBody request result)
      else pure result : Serving ServeResult).Returns scenario := by
    intro result
    split
    · exact ⟨_, rfl⟩
    · exact ⟨_, rfl⟩
  have returns : (serveAt site env request arrived).Returns scenario ↔
      (answer site (JsonRpc.hooks site env) env request scenario).Returns scenario := by
    unfold serveAt serve
    rw [returns_bind_of_forall last, listener, returns_bind]
    exact ⟨fun ⟨_, _, later⟩ => later, fun later => ⟨(), arrival_result _ request arrived scenario, later⟩⟩
  have closes : (serveAt site env request arrived).Closes Finishes scenario := by
    unfold serveAt serve
    rw [listener]
    exact Closes.bind_first (Closes.bind fun _ => answer_closes)
  rw [← returns]
  exact ⟨And.left, fun returned => ⟨returned, rowStatus_ne (closes returned)⟩⟩

end

theorem Accepted.shaped {scenario : Scenario} (accepted : Accepted scenario) : Control.Shaped scenario := by
  obtain ⟨layout, actions, final, key, done, rfl⟩ := accepted
  exact Control.run_shaped done key

theorem Accepted.stored {scenario : Scenario} (accepted : Accepted scenario) : StoredFilters scenario := by
  obtain ⟨layout, actions, final, key, done, rfl⟩ := accepted
  exact (final key).scenario.stored

/-- **When a JSON-RPC request is served to its end.** For every block that accepted control calls can leave,
every body, and whatever the request reads of the outside, `serve` returns and finishes the history row
exactly when the provider is down for the request, or when the reader has room for the body and the
request has what it needs. -/
theorem served_to_its_end_iff (site : Site) (json : site.endpoint.interface = .jsonrpc)
    (http : site.endpoint.transport = .http) (env : Env) (request : RawRequest) (arrived : Bool)
    (scenario : Scenario) (accepted : Accepted scenario) :
    ServedToItsEnd site env request arrived scenario ↔ Serves site env request scenario := by
  rw [servedToItsEnd_iff_returns json http]
  exact answer_returns json accepted.shaped accepted.stored

/-- A call of `eth_blockNumber` has what it needs. -/
theorem served_to_its_end_number :
    Accepted (storedBlock errorElsewhere) ∧
      ServedToItsEnd numberSite numberEnv { body := numberBody } false (storedBlock errorElsewhere) ∧
      Serves numberSite numberEnv { body := numberBody } (storedBlock errorElsewhere) := by
  have ended : ServedToItsEnd numberSite numberEnv { body := numberBody } false (storedBlock errorElsewhere) :=
    ⟨⟨_, rfl⟩, by decide +kernel⟩
  exact ⟨storedBlock_accepted _, ended, (served_to_its_end_iff numberSite rfl rfl numberEnv { body := numberBody }
    false (storedBlock errorElsewhere) (storedBlock_accepted _)).mp ended⟩

/-! ### A method that is a list -/

/-- The bytes of `{"method": []}`. -/
def listBody : Bytes := "\x7b\"method\": []\x7d".toList.map fun char => UInt8.ofNat char.toNat

/-- The provider, where the JSON reader reads this body. -/
def listSite : Site :=
  { numberSite with
    host := { numberHost with
      loads := fun body =>
        if body = listBody then .ok (.object [("method", .list [])]) else .error (.badJson "Expecting value" 1 1) } }

/-- **A method that is a list** raises in the look-up of its entry, at the defaults too, and its row stays
`in_flight`. -/
theorem list_method_stays_in_flight :
    Accepted ScenarioConfig.default.values ∧
      ((serveAt listSite numberEnv { body := listBody } false).outcomeAt
        ScenarioConfig.default.values).result = .error .typeError ∧
      rowStatus ((serveAt listSite numberEnv { body := listBody } false).outcomeAt
        ScenarioConfig.default.values).effects = "in_flight" ∧
      ¬ ServedToItsEnd listSite numberEnv { body := listBody } false ScenarioConfig.default.values := by
  have raised : ((serveAt listSite numberEnv { body := listBody } false).outcomeAt
      ScenarioConfig.default.values).result = .error .typeError := by rfl
  have row : rowStatus ((serveAt listSite numberEnv { body := listBody } false).outcomeAt
      ScenarioConfig.default.values).effects = "in_flight" := by decide +kernel
  refine ⟨⟨Control.soloLayout, [], _, ⟨"eth-sim", "1"⟩, rfl, Control.initial_values _ _⟩, raised, row, ?_⟩
  exact fun ended => ended.2 row

end ProviderSimulator.Listeners
