/-
**When a gRPC success row has a reply.**

The row of a call says `success` before the message of its reply is built. A caller gets no reply where the builder
then raises, and it gets none where `serve` raises itself. The values that decide this are the ones that nothing checks
when a block is stored: the members of a `result` override, an `error` override, `blocks_behind` and the head, the
`error_probability` of an entry, the `error_message` and the `error_code`, and the name of a field to clear.

* `answerVerdict_hasReply` — the answer to a verdict of the ladder;
* `answerParsed_hasReply` and `answer_hasReply` — the flow after the parse, and after the snapshot;
* `success_row_has_reply_iff` — **a call has its reply** exactly when these values are what its way needs (`Needs`).
-/

import Mathlib.Tactic.Common
import ProviderSimulator.Listeners.GrpcReplies

namespace ProviderSimulator.Listeners.Grpc

open ProviderSimulator.Lib ProviderSimulator.Lib.Flow ProviderSimulator.Python ProviderSimulator.Domain
open ProviderSimulator.FaultPolicy (Verdict windowActive resolveMode)
open ProviderSimulator.Chains (Parsed Content Gives gives_ok gives_ok_iff gives_error_iff not_gives_error)

/-! ### What a call needs -/

/-- Can the status of an error be looked up? -/
def nameable (message code : Value) : Bool :=
  message.hashable && (statuses.any message.eqText || code.hashable)

/-- The verdict of the ladder for a call whose entry the flow reads as `cfg`. -/
def verdictOf (env : Env) (scenario : Scenario) (targeted : Bool) (mode : Value) (cfg : List (Key × Value)) :
    Except PyError Verdict :=
  verdictFor targeted (modeWith scenario mode cfg) (mergedWith scenario mode cfg) env.roll

section

variable (protobuf : Protobuf) (site : Site) (env : Env) (scenario : Scenario) (method : String)

/-- **What a call needs** whose entry the flow reads as `cfg`. -/
structure Needs (targeted : Bool) (mode : Value) (cfg : List (Key × Value)) : Prop where
  /-- Where the ladder rolls a number for an overridden method, the probability of its entry is a number. -/
  rolled : overridden scenario method = true → Rolled scenario targeted mode cfg
  /-- An error of the ladder has a status, where the method is overridden. -/
  named : overridden scenario method = true → ∀ status code message body,
    verdictOf env scenario targeted mode cfg = .ok (.error status code message body) → nameable message code = true
  /-- An `error` override that the chain reads is an object. -/
  object : verdictOf env scenario targeted mode cfg = .ok .none →
    Dict.get (chainCfg scenario method) (.text "error_stub") = none →
      ∀ error, Dict.get (chainCfg scenario method) (.text "error") = some error → error.isDict = true
  /-- The values of a message fit. -/
  fits : verdictOf env scenario targeted mode cfg = .ok .none → sentAsMessage scenario targeted method = true →
    Fits site env scenario method
  /-- The name of a field that is to be cleared can be looked up. -/
  cleared : verdictOf env scenario targeted mode cfg = .ok .none → sentAsMessage scenario targeted method = true →
    HasData site env scenario method → asksToClear scenario targeted = true →
      (scenario .missingField).hashable = true ∨
        Gives (protobuf.fieldNamed (replyFields method) (scenario .missingField))

/-- **The calls that have their reply**: the provider is down for the call, or the call has what it needs. -/
def MeetsNeeds (request : RawRequest) : Prop :=
  ∃ targeted mode, resolveMode scenario site.endpoint env.count = .ok (targeted, mode) ∧
    ((targeted && mode.eqText "down") = true ∨
      ∃ cfg, entryFor scenario targeted (some (.value (.str request.path))) = .ok cfg ∧
        Needs protobuf site env scenario request.path targeted mode cfg)

end

/-! ### The flow -/

section

variable {protobuf : Protobuf} {now : UtcNow} {site : Site} {env : Env} {scenario found : Scenario} {policy : Policy}
  {parsed : Parsed} {request : RawRequest} {given : Bool}

theorem finish_result (parsed : Parsed) (decided : Decided) :
    ((finish (hooks site env) scenario policy parsed decided).outcomeAt found).result =
      withReplyHeaders (decided.dressed (hooks site env) scenario policy.targeted).1 policy.chosen
        policy.trailers := by
  rw [finish_eq, result_bind_eq, outcomeAt_ofExcept]
  rfl

theorem finishEarly_result (method : String) (label : Label) (result : ServeResult) :
    ((finishEarly policy method label result).outcomeAt found).result =
      withReplyHeaders result policy.chosen policy.trailers := by
  unfold finishEarly
  rw [result_bind_eq, outcomeAt_ofExcept]
  rfl

/-- What the flow decides for the reply of a chain. -/
def settled (site : Site) (env : Env) (parsed : Parsed) (latency body : Value) (result : ServeResult) : Decided where
  result := result
  label := successLabel body
  requestId := ((hooks site env).responseId body).orElse ((hooks site env).requestId parsed)
  latency := latency

/-- A call without a verdict is answered by the chain. -/
theorem answerNone_result (lava : site.chain = .lava) (grpc : site.endpoint.interface = .grpc) (latency : Value) :
    ((answerVerdict (hooks site env) scenario policy latency parsed request .none).outcomeAt found).result =
      (Chains.Lava.buildGrpc site.host parsed scenario env.head >>= fun content =>
        afterChain site env scenario policy (settled site env parsed latency) content.body) := by
  have asked : Chains.buildSuccess site.host site.reader site.chain site.endpoint.interface parsed scenario env.quirks
      env.head = Chains.Lava.buildGrpc site.host parsed scenario env.head := by
    rw [lava, grpc]
    rfl
  have content : ((buildContent site env parsed scenario request).outcomeAt found).result =
      (Chains.Lava.buildGrpc site.host parsed scenario env.head >>= fun content =>
        .ok (content.status, content.body)) := by
    unfold buildContent chainContent
    rw [asked, result_bind_eq, result_bind_eq, outcomeAt_ofExcept]
    cases Chains.Lava.buildGrpc site.host parsed scenario env.head with
    | error error => rfl
    | ok content =>
        rw [ok_bind, ok_bind, result_bind_eq, outcomeAt_leaveAll]
        rfl
  show ((succeed (hooks site env) scenario latency parsed request >>= fun decided =>
    finish (hooks site env) scenario policy parsed decided).outcomeAt found).result = _
  unfold succeed
  rw [result_bind_eq, result_bind_eq]
  show (((buildContent site env parsed scenario request).outcomeAt found).result >>= _) >>= _ = _
  rw [content]
  cases Chains.Lava.buildGrpc site.host parsed scenario env.head with
  | error error => rfl
  | ok content =>
      rw [ok_bind, ok_bind, ok_bind]
      unfold afterChain
      show (((Flow.ofExcept (buildSuccess site content.body) : Serving ServeResult) >>= fun result =>
        (.done (settled site env parsed latency content.body result) : Serving Decided)).outcomeAt
          found).result >>= _ = _
      rw [result_bind_eq, outcomeAt_ofExcept]
      cases buildSuccess site content.body with
      | error error => rfl
      | ok result => exact finish_result parsed _

/-- A reply that is decided to be a status. -/
theorem finish_status (sends : Sends policy) {decided : Decided} {code : String} {text : Value}
    (body : decided.result.body = .grpcStatus code text) :
    HasReply protobuf site.host now given
      ((finish (hooks site env) scenario policy parsed decided).outcomeAt found).result := by
  rw [finish_result, hasReply_withReplyHeaders sends]
  exact delivered_status (dressed_status body)

/-- The status of an error of the ladder. -/
theorem statusName_gives (message code : Value) : Gives (statusName message code) ↔ nameable message code = true := by
  have byNumber : Gives (statusByValue code) ↔ code.hashable = true := by
    unfold statusByValue
    cases code.hashable with
    | true => exact gives_ok_iff rfl _
    | false => exact gives_error_iff Bool.false_ne_true _
  have last : Gives (do pure ((← statusByValue code).getD "UNKNOWN")) ↔ code.hashable = true :=
    (Chains.gives_bind_pure _).trans byNumber
  have unnamed : ∀ message : Value, message.isStr = false → statuses.any message.eqText = false := by
    intro message other
    cases message with
    | str text => cases other
    | _ => rfl
  unfold statusName nameable
  cases message with
  | str text =>
      by_cases known : text ∈ statuses
      · have found : statusByName (.str text) = .ok (some text) := by
          show Except.ok (if text ∈ statuses then some text else none) = _
          rw [if_pos known]
        have matched : statuses.any (Value.str text).eqText = true :=
          List.any_eq_true.mpr ⟨text, known, decide_eq_true rfl⟩
        rw [found, matched]
        exact gives_ok_iff rfl _
      · have found : statusByName (.str text) = .ok none := by
          show Except.ok (if text ∈ statuses then some text else none) = _
          rw [if_neg known]
        have matched : statuses.any (Value.str text).eqText = false := by
          refine Bool.eq_false_iff.mpr fun some => known ?_
          obtain ⟨name, member, same⟩ := List.any_eq_true.mp some
          exact of_decide_eq_true same ▸ member
        rw [found, matched, ok_bind]
        exact last
  | list items => exact gives_error_iff Bool.false_ne_true _
  | dict entries => exact gives_error_iff Bool.false_ne_true _
  | _ =>
      rw [unnamed _ rfl]
      exact last

/-- An error of the ladder is a status, if its name can be looked up. -/
theorem answerError_hasReply (sends : Sends policy) (latency status code message body : Value) :
    HasReply protobuf site.host now given
        ((answerVerdict (hooks site env) scenario policy latency parsed request
          (.error status code message body)).outcomeAt found).result ↔
      (given = true → nameable message code = true) := by
  have built : ((answerVerdict (hooks site env) scenario policy latency parsed request
      (.error status code message body)).outcomeAt found).result = statusName message code >>= fun name =>
        ((finish (hooks site env) scenario policy parsed {
          result := statusReply name message, label := .error, requestId := (hooks site env).requestId parsed
          latency }).outcomeAt found).result := by
    show ((Flow.ofExcept (statusName message code >>= fun name => pure (statusReply name message)) >>= fun result =>
      finish (hooks site env) scenario policy parsed {
        result, label := .error, requestId := (hooks site env).requestId parsed
        latency }).outcomeAt found).result = _
    rw [result_bind_eq, outcomeAt_ofExcept]
    cases statusName message code <;> rfl
  rw [built, hasReply_bind, statusName_gives]
  exact and_iff_right fun name _ => finish_status sends rfl

/-- Any other verdict is a status. -/
theorem answerFault_hasReply (sends : Sends policy) (latency : Value) {verdict : Verdict} (faulty : verdict ≠ .none)
    (nameless : ∀ status code message body, verdict ≠ .error status code message body) :
    HasReply protobuf site.host now given
      ((answerVerdict (hooks site env) scenario policy latency parsed request verdict).outcomeAt found).result := by
  have fault : ∀ (plan : ServeResult) (label : Label) (waited : Bool) {code : String} {text : Value},
      plan.body = .grpcStatus code text → HasReply protobuf site.host now given
        ((finish (hooks site env) scenario policy parsed {
          result := plan, label, requestId := (hooks site env).requestId parsed, latency, waited
          }).outcomeAt found).result :=
    fun plan label waited code text body => finish_status sends body
  cases verdict with
  | down =>
      have built : ((answerVerdict (hooks site env) scenario policy latency parsed request .down).outcomeAt
          found).result = withReplyHeaders { statusReply "UNAVAILABLE" (.str "provider down") with
            latencyMs := latency } policy.chosen policy.trailers := by
        unfold answerVerdict answerDown
        rw [result_bind_eq, outcomeAt_ofExcept]
        rfl
      rw [built, hasReply_withReplyHeaders sends]
      exact delivered_status rfl
  | none => exact absurd rfl faulty
  | hang => exact fault { action := .hang, body := .grpcStatus "CANCELLED" (.str "hang timeout") } .hang false rfl
  | drop dropAt =>
      exact fault { action := .drop, dropAt, body := .grpcStatus "UNAVAILABLE" (.str "connection dropped") }
        .dropConnection true rfl
  | rateLimit body style =>
      exact fault (statusReply "RESOURCE_EXHAUSTED" (.str "Too many requests")) .rateLimit true rfl
  | error status code message body => exact absurd rfl (nameless status code message body)

/-- **The answer to a verdict** of the ladder. -/
theorem answerVerdict_hasReply (sends : Sends policy) (latency : Value) (verdict : Verdict) :
    HasReply protobuf site.host now given
        ((answerVerdict (hooks site env) scenario policy latency parsed request verdict).outcomeAt found).result ↔
      (given = true → ∀ status code message body, verdict = .error status code message body →
        nameable message code = true) ∧
      (verdict = .none → HasReply protobuf site.host now given
        ((answerVerdict (hooks site env) scenario policy latency parsed request .none).outcomeAt found).result) := by
  cases verdict with
  | none => simp
  | error status code message body =>
      rw [answerError_hasReply sends]
      refine ⟨fun named => ⟨fun override _ _ _ _ same => ?_, by simp⟩, fun needs override =>
        needs.1 override _ _ _ _ rfl⟩
      cases same
      exact named override
  | _ =>
      refine iff_of_true (answerFault_hasReply sends latency (by simp) (by simp)) ?_
      simp

/-- The request of a call of the method. -/
def called (request : RawRequest) : Parsed := { fields := [("method", .str request.path)], message := request.message }

/-- The flow after the parse: the ladder, and the answer to its verdict. -/
theorem answerParsed_result (site : Site) (env : Env) (found : Scenario) {cfg : List (Key × Value)}
    (entry : entryFor scenario policy.targeted (some (.value (.str request.path))) = .ok cfg) :
    ∃ latency, ((answerParsed (hooks site env) env scenario policy (called request) request).outcomeAt found).result =
      verdictFor policy.targeted (modeWith scenario policy.mode cfg) (mergedWith scenario policy.mode cfg) env.roll >>=
        fun verdict => ((answerVerdict (hooks site env) scenario policy latency (called request) request
          verdict).outcomeAt found).result := by
  have read : entryFor scenario policy.targeted ((hooks site env).methodKey (called request)) = .ok cfg := entry
  have plain : (if cfg.isEmpty then none else (hooks site env).buildBodyOverride cfg) = none := by
    split <;> rfl
  refine ⟨if shadows cfg then mergedWith scenario policy.mode cfg .latencyMs else policy.latency, ?_⟩
  unfold answerParsed
  rw [read, ofExcept_ok, done_bind, plain]
  dsimp only
  rw [result_bind_eq, outcomeAt_ofExcept]
  rfl

/-- **The flow after the parse.** -/
theorem answerParsed_hasReply (typed : protobuf.Typed) (lava : site.chain = .lava)
    (grpc : site.endpoint.interface = .grpc) (shaped : Control.Shaped scenario) (sends : Sends policy)
    (served : request.path ∈ servedMethods) {cfg : List (Key × Value)}
    (entry : entryFor scenario policy.targeted (some (.value (.str request.path))) = .ok cfg) :
    HasReply protobuf site.host now (overridden scenario request.path)
        ((answerParsed (hooks site env) env scenario policy (called request) request).outcomeAt found).result ↔
      Needs protobuf site env scenario request.path policy.targeted policy.mode cfg := by
  obtain ⟨latency, result⟩ := answerParsed_result site env found entry
  have settles : ∀ body result, (settled site env (called request) latency body result).result = result :=
    fun _ _ => rfl
  have content : ((answerVerdict (hooks site env) scenario policy latency (called request) request .none).outcomeAt
      found).result = answerEntry site env.head scenario request.path
        (afterChain site env scenario policy (settled site env (called request) latency)) := by
    rw [answerNone_result lava grpc, chain_eq shaped rfl]
  have chain := (chain_hasReply sends settles typed served : HasReply protobuf site.host now
    (overridden scenario request.path) (answerEntry site env.head scenario request.path
      (afterChain site env scenario policy (settled site env (called request) latency))) ↔ _)
  rw [← content] at chain
  rw [result, hasReply_bind, verdictFor_gives shaped]
  constructor
  · rintro ⟨answered, rolled⟩
    have through := fun verdict given => (answerVerdict_hasReply sends latency verdict).mp (answered verdict given)
    have content := fun given => chain.mp ((through .none given).2 rfl)
    exact ⟨rolled, fun override status code message body given => (through _ given).1 override _ _ _ _ rfl,
      fun given => (content given).1, fun given => (content given).2.1, fun given => (content given).2.2⟩
  · intro needs
    refine ⟨fun verdict given => (answerVerdict_hasReply sends latency verdict).mpr ⟨?_, ?_⟩, needs.rolled⟩
    · rintro override status code message body rfl
      exact needs.named override status code message body given
    · rintro rfl
      exact chain.mpr ⟨needs.object given, needs.fits given, needs.cleared given⟩

end

section

variable {protobuf : Protobuf} {now : UtcNow} {site : Site} {env : Env} {scenario found : Scenario}
  {request : RawRequest}

/-- What a call needs for which the provider is up, by the mode and the entry that the flow reads. -/
theorem meetsNeeds_iff {targeted : Bool} {mode : Value} {cfg : List (Key × Value)}
    (resolved : resolveMode scenario site.endpoint env.count = .ok (targeted, mode))
    (up : ¬ (targeted && mode.eqText "down") = true)
    (entry : entryFor scenario targeted (some (.value (.str request.path))) = .ok cfg) :
    MeetsNeeds protobuf site env scenario request ↔
      Needs protobuf site env scenario request.path targeted mode cfg := by
  constructor
  · rintro ⟨_, _, again, either⟩
    cases resolved.symm.trans again
    rcases either with down | ⟨other, read, needs⟩
    · exact absurd down up
    · cases entry.symm.trans read
      exact needs
  · exact fun needs => ⟨targeted, mode, resolved, .inr ⟨cfg, entry, needs⟩⟩

/-- **The flow after the snapshot.** -/
theorem answer_hasReply (typed : protobuf.Typed) (lava : site.chain = .lava)
    (grpc : site.endpoint.interface = .grpc) (shaped : Control.Shaped scenario) (stored : StoredFilters scenario)
    (served : request.path ∈ servedMethods) :
    HasReply protobuf site.host now (overridden scenario request.path)
        ((answer site (hooks site env) env request scenario).outcomeAt found).result ↔
      MeetsNeeds protobuf site env scenario request := by
  obtain ⟨⟨targeted, mode⟩, resolved⟩ := resolveMode_gives stored shaped.counted site.endpoint env.count
  obtain ⟨active, window⟩ := windowActive_of_resolveMode resolved
  have sends := policy_sends shaped targeted mode
  have flow : ((answer site (hooks site env) env request scenario).outcomeAt found).result =
      ((if targeted && mode.eqText "down" then
          finishEarly (Listeners.policy scenario targeted mode) "*" .down (hooks site env).buildDown
        else answerParsed (hooks site env) env scenario (Listeners.policy scenario targeted mode) (called request)
          request).outcomeAt found).result := by
    unfold answer
    rw [window, resolved, ofExcept_ok, done_bind, result_bind_eq, outcomeAt_leaveAll]
    rfl
  have hashable : ((called request).get "method").hashable = true := rfl
  obtain ⟨cfg, entry, -⟩ := entryFor_gives shaped targeted hashable
  have entry : entryFor scenario targeted (some (.value (.str request.path))) = .ok cfg := entry
  rw [flow]
  split
  · next down =>
      refine ⟨fun _ => ⟨targeted, mode, resolved, .inl down⟩, fun _ => ?_⟩
      rw [finishEarly_result, hasReply_withReplyHeaders sends]
      exact delivered_status rfl
  · next up =>
      rw [meetsNeeds_iff resolved up entry]
      have entered : entryFor scenario (Listeners.policy scenario targeted mode).targeted
          (some (.value (.str request.path))) = .ok cfg := by rwa [policy_targeted]
      refine (answerParsed_hasReply typed lava grpc shaped sends served entered).trans ?_
      rw [policy_targeted, policy_mode]

end

/-- **When a gRPC success row has a reply.** For every block that accepted control calls can leave, every call of a
served method of a Lava gRPC provider, and whatever the call reads of the outside: each reply that `serve` plans has its
message, and `serve` returns for every override of the method, exactly when the call has what it needs. -/
theorem success_row_has_reply_iff (protobuf : Protobuf) (typed : protobuf.Typed) (now : UtcNow) (site : Site)
    (lava : site.chain = .lava) (grpc : site.endpoint.interface = .grpc) (env : Env) (request : RawRequest)
    (served : request.path ∈ servedMethods) (arrived : Bool) (scenario : Scenario) (accepted : Accepted scenario) :
    HasReply protobuf site.host now (overridden scenario request.path)
        ((serveAt site env request arrived).outcomeAt scenario).result ↔
      MeetsNeeds protobuf site env scenario request := by
  have listener : Listeners.hooks site env = hooks site env := by
    unfold Listeners.hooks
    rw [grpc]
  have result : ((serveAt site env request arrived).outcomeAt scenario).result =
      ((answer site (hooks site env) env request scenario).outcomeAt scenario).result := by
    unfold serveAt serve
    rw [listener, grpc, result_bind_eq, result_bind_eq, arrival_result, ok_bind, snapshot_bind]
    show ((answer site (hooks site env) env request scenario).outcomeAt scenario).result >>= _ = _
    cases ((answer site (hooks site env) env request scenario).outcomeAt scenario).result <;> rfl
  rw [result]
  exact answer_hasReply typed lava grpc accepted.shaped accepted.stored served

/-! ### A call of `GetLatestBlock` -/

/-- The library as it takes values. -/
def pyProtobuf : Protobuf where
  setString
    | .str text => .ok text
    | _ => .error .typeError
  stringKeyword
    | .none => .ok ""
    | .str text => .ok text
    | _ => .error .typeError
  int64Keyword value :=
    if value.isNone then .ok 0
    else
      match value.integer with
      | some number => if -2 ^ 63 ≤ number ∧ number < 2 ^ 63 then .ok number else .error .valueError
      | none => .error .typeError
  fieldNamed fields
    | .str name => .ok (if name ∈ fields then some name else none)
    | _ => .ok none

theorem pyProtobuf_typed : pyProtobuf.Typed := by
  constructor
  · intro value
    cases value with
    | str text => exact gives_ok_iff rfl _
    | _ => exact gives_error_iff Bool.false_ne_true _
  · intro value
    cases value with
    | none => exact gives_ok_iff rfl _
    | str text => exact gives_ok_iff rfl _
    | _ => exact gives_error_iff Bool.false_ne_true _
  · intro value
    have range : ∀ number : ℤ, Gives (if -2 ^ 63 ≤ number ∧ number < 2 ^ 63 then .ok number else
        (.error .valueError : Except PyError ℤ)) ↔ (-2 ^ 63 ≤ number && number < 2 ^ 63) = true := by
      intro number
      rw [Bool.and_eq_true, decide_eq_true_iff, decide_eq_true_iff]
      split
      · next inside => exact gives_ok_iff inside _
      · next outside => exact gives_error_iff outside _
    cases value with
    | none => exact gives_ok_iff rfl _
    | bool flag => exact range _
    | int number => exact range _
    | _ => exact gives_error_iff Bool.false_ne_true _
  · intro fields name _
    cases name <;> exact gives_ok _

/-- A Lava provider with one gRPC port. -/
def grpcEndpoint : Endpoint := ⟨.grpc, .http2, 19090⟩

/-- A simulator with that provider. -/
def grpcLayout : Control.Layout :=
  ⟨⟨[("lava-sim", ⟨.lava, [("1", [grpcEndpoint])]⟩)], by decide⟩,
    [(19090, ⟨⟨"lava-sim", "1"⟩, grpcEndpoint⟩)]⟩

/-- What a call of `POST /scenario` stores for the provider that starts at its defaults. -/
def grpcBlock (body : Control.Json) : Scenario :=
  ((Control.applyScenario grpcLayout (fun _ => "") (fun _ => 0) (Control.initial grpcLayout) body).state
    ⟨"lava-sim", "1"⟩).scenario.values

theorem grpcBlock_accepted (body : Control.Json) : Accepted (grpcBlock body) :=
  ⟨grpcLayout, [.apply (fun _ => "") (fun _ => 0) body], _, ⟨"lava-sim", "1"⟩, rfl, rfl⟩

/-- `{"responses": {"GetLatestBlock": {"result": {"height": height}}}}`, for a text or a number. -/
def heightBody (height : Value) (plain : height.WellFormed) : Control.Json :=
  ⟨.object [("providers", .object [("lava-sim:1", .object [
      ("responses", .object [("GetLatestBlock", .object [("result", .object [("height", height)])])])])])],
    by simp [Value.object, Value.WellFormed, Value.WellFormedEntries, plain]⟩

/-- The port of the provider. -/
def grpcSite : Site := { numberSite with chain := .lava, endpoint := grpcEndpoint }

/-- A call of `GetLatestBlock`. -/
def latestBlockCall : RawRequest := { path := "GetLatestBlock" }

/-- The block that holds such an override, and the call under it. -/
def heightBlock (height : Value) (plain : height.WellFormed) : Scenario := grpcBlock (heightBody height plain)

def latestBlockOutcome (scenario : Scenario) : Outcome PyError Effect ServeResult :=
  (serveAt grpcSite numberEnv latestBlockCall false).outcomeAt scenario

/-- The plan of the call. -/
def heightPlan (height : Value) : ServeResult where
  action := .respond
  body := .grpcReply "GetLatestBlock" (.object [
    ("grpc_method", .str "GetLatestBlock"), ("result", .object [("height", height)])])

/-- A height that is a number fits. -/
theorem success_row_has_reply_number :
    Accepted (heightBlock (.int 7) trivial) ∧
      HasReply pyProtobuf grpcSite.host ⟨0, 0⟩ (overridden (heightBlock (.int 7) trivial) "GetLatestBlock")
        (latestBlockOutcome (heightBlock (.int 7) trivial)).result ∧
      MeetsNeeds pyProtobuf grpcSite numberEnv (heightBlock (.int 7) trivial) latestBlockCall := by
  have planned : (latestBlockOutcome (heightBlock (.int 7) trivial)).result = .ok (heightPlan (.int 7)) := by rfl
  have has : HasReply pyProtobuf grpcSite.host ⟨0, 0⟩ (overridden (heightBlock (.int 7) trivial) "GetLatestBlock")
      (latestBlockOutcome (heightBlock (.int 7) trivial)).result := by
    rw [planned, hasReply_ok]
    intro method data reply
    cases reply
    exact ⟨_, rfl⟩
  exact ⟨grpcBlock_accepted _, has, (success_row_has_reply_iff pyProtobuf pyProtobuf_typed ⟨0, 0⟩ grpcSite rfl rfl
    numberEnv latestBlockCall (by decide) false _ (grpcBlock_accepted _)).mp has⟩

/-- **A height that is a text**: the row says `success`, and the builder of the message raises. -/
theorem latest_block_without_reply :
    Accepted (heightBlock (.str "latest") trivial) ∧
      (latestBlockOutcome (heightBlock (.str "latest") trivial)).result = .ok (heightPlan (.str "latest")) ∧
      rowStatus (latestBlockOutcome (heightBlock (.str "latest") trivial)).effects = "success" ∧
      ¬ HasReply pyProtobuf grpcSite.host ⟨0, 0⟩ (overridden (heightBlock (.str "latest") trivial) "GetLatestBlock")
        (latestBlockOutcome (heightBlock (.str "latest") trivial)).result := by
  have planned : (latestBlockOutcome (heightBlock (.str "latest") trivial)).result =
      .ok (heightPlan (.str "latest")) := by rfl
  refine ⟨grpcBlock_accepted _, planned, by decide +kernel, ?_⟩
  rw [planned, hasReply_ok]
  intro delivered
  have raised : messageOf pyProtobuf grpcSite.host ⟨0, 0⟩ (heightPlan (.str "latest")) "GetLatestBlock" (.object [
      ("grpc_method", .str "GetLatestBlock"), ("result", .object [("height", .str "latest")])]) =
        .error .typeError := by rfl
  have built := delivered _ _ rfl
  rw [raised] at built
  exact not_gives_error _ built

end ProviderSimulator.Listeners.Grpc
