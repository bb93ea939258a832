/-
**What `serve` has done when it returns.**

`serve` has seven exits, and each one does its bookkeeping by hand: the count of the window, the row, the
latency on the row and on the plan, the chosen headers, the pause and the corruption. `Closed` says what the
flow after the policy has done at each exit, and `serve_ends` what the whole call has done.

* `hooks_buildFault_reply`, `hooks_override_bare` and `hooks_parse_bare` — what a hook builds has nothing of
  the scenario on it, and only a hang waits for nothing;
* `finish_ends` — the common end of the canned body, the fault and the success;
* `serve_ends` — every exit.
-/

import Mathlib.Tactic.Common
import ProviderSimulator.Listeners.Scope

namespace ProviderSimulator.Listeners

open ProviderSimulator.Lib ProviderSimulator.Lib.Flow ProviderSimulator.Python ProviderSimulator.Domain
open ProviderSimulator.FaultPolicy (Verdict windowActive resolveMode ladder targets)
open ProviderSimulator.Chains (Parsed)

/-! ### What the hooks build -/

/-- The transport waits for the latency of the reply. -/
def Waits (result : ServeResult) : Prop := result.action = .respond ∨ result.action = .drop

/-- A fault reply is bare, and it is waited for unless it hangs. -/
structure FaultReply (verdict : Verdict) (result : ServeResult) : Prop where
  bare : Bare result
  waits : Waits result ↔ verdict ≠ .hang

theorem bodilessFault_reply (verdict : Verdict) {otherwise : ServeResult} (bare : Bare otherwise)
    (sent : otherwise.action = .respond) : FaultReply verdict (bodilessFault verdict otherwise) := by
  have other : verdict ≠ .hang → FaultReply verdict otherwise := fun elsewhere =>
    ⟨bare, iff_of_true (.inl sent) elsewhere⟩
  cases verdict with
  | hang => exact ⟨⟨⟨rfl, rfl, rfl, rfl⟩, rfl, rfl, rfl⟩, iff_of_false (by simp [Waits, bodilessFault]) (by simp)⟩
  | drop dropAt => exact ⟨⟨⟨rfl, rfl, rfl, rfl⟩, rfl, rfl, rfl⟩, iff_of_true (.inr rfl) nofun⟩
  | none => exact other nofun
  | down => exact other nofun
  | rateLimit body style => exact other nofun
  | error status code message body => exact other nofun

section

variable (site : Site) (env : Env)

theorem hooks_buildDown_bare : Bare (hooks site env).buildDown := by
  unfold hooks
  split
  · exact ⟨⟨rfl, rfl, rfl, rfl⟩, rfl, rfl, rfl⟩
  · exact ⟨⟨rfl, rfl, rfl, rfl⟩, rfl, rfl, rfl⟩
  · exact ⟨⟨rfl, rfl, rfl, rfl⟩, rfl, rfl, rfl⟩
  · exact ⟨⟨rfl, rfl, rfl, rfl⟩, rfl, rfl, rfl⟩
  · exact ⟨⟨rfl, rfl, rfl, rfl⟩, rfl, rfl, rfl⟩
  · exact statusReply_bare _ _

variable {site env}

theorem jsonRpc_buildFault_reply (verdict : Verdict) (parsed : Parsed) :
    FaultReply verdict (JsonRpc.buildFault verdict parsed) := by
  unfold JsonRpc.buildFault
  refine bodilessFault_reply verdict ?_ ?_
  · cases verdict <;> exact respond_bare _ _
  · cases verdict <;> rfl

theorem graphql_buildFault_reply (verdict : Verdict) : FaultReply verdict (Graphql.buildFault verdict) := by
  have replied : ∀ {result : ServeResult}, (∃ status body, result = respond status body) →
      Bare result ∧ result.action = .respond := by
    rintro _ ⟨status, body, rfl⟩
    exact ⟨respond_bare status body, rfl⟩
  unfold Graphql.buildFault
  refine bodilessFault_reply verdict (replied ?_).1 (replied ?_).2
  all_goals
    cases verdict with
    | rateLimit body style =>
        dsimp only
        split
        · exact ⟨_, _, rfl⟩
        · exact ⟨_, _, rfl⟩
    | error status code message body =>
        dsimp only
        split
        · exact ⟨_, _, rfl⟩
        · exact ⟨_, _, rfl⟩
    | _ => exact ⟨_, _, rfl⟩

theorem grpc_buildFault_reply {verdict : Verdict} {result : ServeResult}
    (built : Grpc.buildFault verdict = .ok result) : FaultReply verdict result := by
  unfold Grpc.buildFault at built
  split at built
  · cases built
    exact ⟨⟨⟨rfl, rfl, rfl, rfl⟩, rfl, rfl, rfl⟩, iff_of_false (by simp [Waits]) (by simp)⟩
  · cases built
    exact ⟨⟨⟨rfl, rfl, rfl, rfl⟩, rfl, rfl, rfl⟩, iff_of_true (.inr rfl) nofun⟩
  · cases built
    exact ⟨statusReply_bare _ _, iff_of_true (.inl rfl) nofun⟩
  · obtain ⟨name, -, same⟩ := ok_of_bind built
    cases same
    exact ⟨statusReply_bare _ _, iff_of_true (.inl rfl) nofun⟩
  · next hang _ _ _ =>
      cases built
      exact ⟨statusReply_bare _ _, iff_of_true (.inl rfl) hang⟩

/-- **The fault hook of every listener.** -/
theorem hooks_buildFault_reply {verdict : Verdict} {parsed : Parsed} {result : ServeResult}
    (built : (hooks site env).buildFault verdict parsed = .ok result) : FaultReply verdict result := by
  unfold hooks at built
  split at built
  · cases built
    exact jsonRpc_buildFault_reply verdict parsed
  · cases built
    exact jsonRpc_buildFault_reply verdict parsed
  · cases built
    exact bodilessFault_reply verdict (respond_bare _ _) rfl
  · cases built
    exact bodilessFault_reply verdict (respond_bare _ _) rfl
  · cases built
    exact graphql_buildFault_reply verdict
  · exact grpc_buildFault_reply built

/-- **The canned body of every listener.** -/
theorem hooks_override_bare {cfg : List (Key × Value)} {result : ServeResult}
    (canned : (hooks site env).buildBodyOverride cfg = some result) : Bare result ∧ result.action = .respond := by
  have body : bodyOverride cfg = some result → Bare result ∧ result.action = .respond := by
    intro found
    unfold bodyOverride at found
    split at found
    · cases found
    · split at found
      · cases found
      · cases found
        exact ⟨respond_bare _ _, rfl⟩
  unfold hooks at canned
  split at canned
  · exact body canned
  · exact body canned
  · cases canned
  · cases canned
  · exact body canned
  · cases canned

theorem graphql_reply_bare (kind : GraphqlDocument.Kind) (message : String) (scenario : Scenario) :
    (Graphql.replyToAnUnreadableBody site kind message).Ends (fun _ result => Bare result) scenario := by
  have chosen : ∀ result, Graphql.unreadableReply site scenario = .ok (some result) → Bare result := by
    intro result found
    unfold Graphql.unreadableReply at found
    dsimp only at found
    split at found
    · cases found
    · obtain ⟨targeted, -, later⟩ := ok_of_bind found
      split at later
      · obtain ⟨status, -, later⟩ := ok_of_bind later
        obtain ⟨body, -, later⟩ := ok_of_bind later
        cases later
        exact respond_bare status body
      · cases later
  unfold Graphql.replyToAnUnreadableBody
  refine ends_snapshot_bind (ends_ofExcept_bind fun reply read => ?_)
  cases reply with
  | none => exact ends_done (respond_bare _ _)
  | some result => exact ends_done (chosen result read)

theorem parsedCall_ne_direct {method : String} {params id : Value} {parse : Parse}
    (read : Tendermint.parsedCall site method params id = .ok parse) (result : ServeResult) (shown : String)
    (label : Label) : parse ≠ .direct result shown label := by
  unfold Tendermint.parsedCall at read
  obtain ⟨normal, -, later⟩ := ok_of_bind read
  cases later
  nofun

theorem tendermint_ne_direct {request : RawRequest} {parse : Parse}
    (read : (if request.verb.toUpper = "GET" then Tendermint.parseGet site env request
      else Tendermint.parsePost site request) = .ok parse) (result : ServeResult) (shown : String) (label : Label) :
    parse ≠ .direct result shown label := by
  split at read
  · unfold Tendermint.parseGet at read
    dsimp only at read
    split at read
    · cases read
      simp
    · exact parsedCall_ne_direct read result shown label
  · unfold Tendermint.parsePost at read
    split at read
    · cases read
      simp
    · split at read
      · cases read
      · cases read
        simp
      · split at read
        · split at read
          · cases read
            simp
          · exact parsedCall_ne_direct read result shown label
        · cases read
          simp
      · cases read
        simp

/-- **The direct replies of every listener.** -/
theorem hooks_parse_bare (request : RawRequest) (scenario : Scenario) :
    ((hooks site env).parseRequest request).Ends
      (fun _ parse => ∀ result method label, parse = .direct result method label → Bare result) scenario := by
  have jsonRpc : ∀ parse, JsonRpc.parseRequest site request = .ok parse →
      ∀ result method label, parse = .direct result method label → Bare result := by
    rintro _ read result method label rfl
    unfold JsonRpc.parseRequest at read
    split at read
    · cases read
    · split at read
      · cases read
      · cases read
      · cases read
        exact respond_bare _ _
      · cases read
      · cases read
  unfold hooks
  split
  · exact ends_ofExcept jsonRpc
  · exact ends_ofExcept jsonRpc
  · refine ends_ofExcept ?_
    rintro _ read result method label rfl
    unfold Rest.parseRequest at read
    obtain ⟨id, -, later⟩ := ok_of_bind read
    obtain ⟨body, -, later⟩ := ok_of_bind later
    cases later
  · refine ends_ofExcept fun parse read result method label direct => ?_
    exact absurd direct (tendermint_ne_direct read result method label)
  · show (Graphql.parseRequest site request).Ends _ scenario
    unfold Graphql.parseRequest
    split
    · intro result ended
      cases ended
    · refine (graphql_reply_bare _ _ scenario).bind fun before reply bare => ends_done ?_
      rintro result method label ⟨⟩
      exact bare
    · exact ends_done nofun
  · exact ends_done nofun

/-- A corruption leaves the action, the latency, and the chosen headers and trailers as they are. -/
structure SameFrame (first second : ServeResult) : Prop where
  action : second.action = first.action
  latencyMs : second.latencyMs = first.latencyMs
  replyHeaders : second.replyHeaders = first.replyHeaders
  replyTrailers : second.replyTrailers = first.replyTrailers

variable (site env) in
theorem hooks_corrupt_frame (result : ServeResult) (label : Label) (scenario : Scenario) :
    SameFrame result ((hooks site env).corrupt result label scenario).1 := by
  unfold hooks
  split
  · exact ⟨rfl, rfl, rfl, rfl⟩
  · exact ⟨rfl, rfl, rfl, rfl⟩
  · exact ⟨rfl, rfl, rfl, rfl⟩
  · exact ⟨rfl, rfl, rfl, rfl⟩
  · exact ⟨rfl, rfl, rfl, rfl⟩
  · show SameFrame result (Grpc.corrupt site result label scenario).1
    unfold Grpc.corrupt
    split
    · dsimp only
      split
      · exact ⟨rfl, rfl, rfl, rfl⟩
      · split
        · exact ⟨rfl, rfl, rfl, rfl⟩
        · split
          · exact ⟨rfl, rfl, rfl, rfl⟩
          · exact ⟨rfl, rfl, rfl, rfl⟩
    · exact ⟨rfl, rfl, rfl, rfl⟩

end

/-! ### The chosen headers -/

/-- Empty choices are empty objects. -/
structure Policy.Read (policy : Policy) : Prop where
  chosen : policy.chosen.truthy = false → policy.chosen = .dict []
  trailers : policy.trailers.truthy = false → policy.trailers = .dict []

theorem orElse_empty {value : Value} (falsy : (value.orElse (.dict [])).truthy = false) :
    value.orElse (.dict []) = .dict [] := by
  unfold Value.orElse at falsy ⊢
  split
  · next truthy =>
      rw [if_pos truthy, truthy] at falsy
      cases falsy
  · rfl

theorem policy_read (scenario : Scenario) (targeted : Bool) (mode : Value) :
    (Listeners.policy scenario targeted mode).Read := by
  cases targeted with
  | false => exact ⟨fun _ => rfl, fun _ => rfl⟩
  | true => exact ⟨orElse_empty, orElse_empty⟩

theorem asDict_eq {value object : Value} (read : asDict value = .ok object) : object = value := by
  unfold asDict at read
  split at read
  · cases read
    rfl
  · cases read

/-- **The chosen headers go on a reply that has none.** -/
theorem withReplyHeaders_eq {policy : Policy} (choices : policy.Read) {result sent : ServeResult}
    (headers : result.replyHeaders = .dict []) (trailers : result.replyTrailers = .dict [])
    (put : withReplyHeaders result policy.chosen policy.trailers = .ok sent) :
    sent = { result with replyHeaders := policy.chosen, replyTrailers := policy.trailers } := by
  unfold withReplyHeaders at put
  split at put
  · next neither =>
      cases put
      simp only [Bool.and_eq_true, Bool.not_eq_true'] at neither
      have chosen : policy.chosen = result.replyHeaders := (choices.chosen neither.1).trans headers.symm
      have trailing : policy.trailers = result.replyTrailers := (choices.trailers neither.2).trans trailers.symm
      rw [chosen, trailing]
  · obtain ⟨chosen, readChosen, later⟩ := ok_of_bind put
    obtain ⟨trailing, readTrailing, later⟩ := ok_of_bind later
    cases later
    have same : policy.trailers.orElse (.dict []) = policy.trailers := by
      unfold Value.orElse
      split
      · rfl
      · next falsy => rw [choices.trailers (Bool.eq_false_iff.mpr falsy)]
    rw [asDict_eq readChosen, asDict_eq readTrailing, same]

/-! ### The end of the flow -/

/-- The reply has the headers and the trailers of the policy, and it is paused or corrupted only if it is sent
from a targeted endpoint. -/
structure Sent (policy : Policy) (result : ServeResult) : Prop where
  replyHeaders : result.replyHeaders = policy.chosen
  replyTrailers : result.replyTrailers = policy.trailers
  marked : ¬ Clean result → result.action = .respond ∧ policy.targeted = true

/-- What the flow after the policy has done: its last effect finishes the row with the latency of the reply, and
the others are aside from the bookkeeping. -/
def Closed (policy : Policy) (effects : List Effect) (result : ServeResult) : Prop :=
  ∃ aside method label id, (∀ effect ∈ aside, Effect.Aside effect) ∧
    effects = aside ++ [.finalize method label result.latencyMs id] ∧ Sent policy result

theorem Closed.before {policy : Policy} {before effects : List Effect} {result : ServeResult}
    (closed : Closed policy effects result) (aside : ∀ effect ∈ before, Effect.Aside effect) :
    Closed policy (before ++ effects) result := by
  obtain ⟨others, method, label, id, allowed, rfl, sent⟩ := closed
  refine ⟨before ++ others, method, label, id, fun effect member => ?_, (List.append_assoc _ _ _).symm, sent⟩
  rcases List.mem_append.mp member with first | later
  · exact aside effect first
  · exact allowed effect later

/-- The row, and then the chosen headers. -/
theorem row_ends {policy : Policy} (choices : policy.Read) (result : ServeResult) {found : Scenario}
    (headers : result.replyHeaders = .dict []) (trailers : result.replyTrailers = .dict [])
    (marked : ¬ Clean result → result.action = .respond ∧ policy.targeted = true) (method : Value) (label : Label)
    {latency : Value} (same : latency = result.latencyMs) (id : Value) :
    (do
      Flow.leave (.finalize method label latency id)
      Flow.ofExcept (withReplyHeaders result policy.chosen policy.trailers) : Serving ServeResult).Ends
      (Closed policy) found := by
  refine ends_leave_bind (ends_ofExcept fun sent put => ?_)
  rw [withReplyHeaders_eq choices headers trailers put, same]
  refine ⟨[], method, label, id, fun effect member => ?_, rfl, rfl, rfl, fun unclean => marked fun clean => ?_⟩
  · cases member
  · exact unclean ⟨clean.corruptionMode, clean.missingField, clean.pauseAt, clean.pauseMs⟩

section

variable {site : Site} {env : Env} {scenario found : Scenario} {policy : Policy} {parsed : Parsed}
  {request : RawRequest}

theorem finishEarly_ends (choices : policy.Read) {result : ServeResult} (bare : Bare result) (method : String)
    (label : Label) : (finishEarly policy method label result).Ends (Closed policy) found :=
  row_ends choices result bare.replyHeaders bare.replyTrailers (fun unclean => absurd bare.toClean unclean) _ label
    bare.latencyMs.symm _

theorem answerDown_ends (choices : policy.Read) (latency : Value) :
    (answerDown (hooks site env) policy latency parsed).Ends (Closed policy) found := by
  have bare := hooks_buildDown_bare site env
  refine row_ends choices { (hooks site env).buildDown with latencyMs := latency } bare.replyHeaders
    bare.replyTrailers (fun unclean => absurd ?_ unclean) _ _ rfl _
  exact ⟨bare.corruptionMode, bare.missingField, bare.pauseAt, bare.pauseMs⟩

/-- A decided reply is bare, and it is waited for if and only if it has something to wait for. -/
structure Decided.Sound (decided : Decided) : Prop where
  bare : Bare decided.result
  waited : decided.waited = true ↔ Waits decided.result

theorem Decided.Sound.delayed {decided : Decided} (sound : decided.Sound) :
    decided.delayed = { decided.result with
      latencyMs := if decided.waited then decided.latency else .int 0 } := by
  unfold Decided.delayed
  split
  · next waits => rw [if_pos (sound.waited.mpr waits)]
  · next idle =>
      rw [if_neg fun waited => idle (sound.waited.mp waited), ← sound.bare.latencyMs]

/-- What a decided reply looks like before its headers. -/
theorem Decided.Sound.dressed {decided : Decided} (sound : decided.Sound) (site : Site) (env : Env)
    (scenario : Scenario) (targeted : Bool) :
    SameFrame { decided.result with latencyMs := if decided.waited then decided.latency else .int 0 }
        (decided.dressed (hooks site env) scenario targeted).1 ∧
      (¬ Clean (decided.dressed (hooks site env) scenario targeted).1 →
        (decided.dressed (hooks site env) scenario targeted).1.action = .respond ∧ targeted = true) := by
  have clean := Decided.delayed_clean sound.bare.toClean
  rw [← sound.delayed]
  unfold Decided.dressed
  split
  · next both =>
      have frame := hooks_corrupt_frame site env decided.delayed decided.label scenario
      refine ⟨⟨frame.action, frame.latencyMs, frame.replyHeaders, frame.replyTrailers⟩, fun _ => ⟨?_, both.2⟩⟩
      exact frame.action.trans both.1
  · exact ⟨⟨rfl, rfl, rfl, rfl⟩, fun unclean => absurd clean unclean⟩

/-- **The common end.** -/
theorem finish_ends (choices : policy.Read) {decided : Decided} (sound : decided.Sound) :
    (finish (hooks site env) scenario policy parsed decided).Ends (Closed policy) found := by
  obtain ⟨frame, marked⟩ := sound.dressed site env scenario policy.targeted
  rw [finish_eq]
  refine row_ends choices _ ?_ ?_ marked _ _ frame.latencyMs.symm _
  · exact frame.replyHeaders.trans sound.bare.replyHeaders
  · exact frame.replyTrailers.trans sound.bare.replyTrailers

theorem succeed_ends (latency : Value) :
    (succeed (hooks site env) scenario latency parsed request).Ends
      (fun effects decided => (∀ effect ∈ effects, Effect.Aside effect) ∧ decided.Sound) found := by
  have content := (hooks_content_apart site env parsed scenario request).ends found
  unfold succeed
  refine content.bind fun before pair aside => ?_
  refine ends_ofExcept_bind fun result built => ends_ofExcept_bind fun label _ => ends_done ?_
  obtain ⟨bare, sent⟩ := hooks_buildSuccess_bare site env built
  refine ⟨?_, bare, iff_of_true rfl (.inl sent)⟩
  rw [List.append_nil]
  exact aside

theorem answerVerdict_ends (choices : policy.Read) (latency : Value) (verdict : Verdict) :
    (answerVerdict (hooks site env) scenario policy latency parsed request verdict).Ends (Closed policy) found := by
  have fault : ∀ waited : Bool, (waited = true ↔ verdict ≠ .hang) → ∀ label id : _,
      (do
        let result ← (Flow.ofExcept ((hooks site env).buildFault verdict parsed) : Serving ServeResult)
        finish (hooks site env) scenario policy parsed
          { result, label, requestId := id, latency, waited }).Ends (Closed policy) found := by
    intro waited kind label id
    refine ends_ofExcept_bind fun result built => finish_ends choices ?_
    have reply := hooks_buildFault_reply built
    exact ⟨reply.bare, kind.trans reply.waits.symm⟩
  unfold answerVerdict
  cases verdict with
  | down => exact answerDown_ends choices latency
  | none =>
      refine (succeed_ends latency).bind fun before decided both => ?_
      intro result ended
      exact Closed.before (finish_ends choices both.2 result ended) both.1
  | hang => exact fault false (iff_of_false Bool.false_ne_true fun other => other rfl) _ _
  | drop dropAt => exact fault true (iff_of_true rfl (by simp)) _ _
  | rateLimit body style => exact fault true (iff_of_true rfl (by simp)) _ _
  | error status code message body => exact fault true (iff_of_true rfl (by simp)) _ _

theorem answerParsed_ends (choices : policy.Read) :
    (answerParsed (hooks site env) env scenario policy parsed request).Ends (Closed policy) found := by
  unfold answerParsed
  refine ends_ofExcept_bind fun cfg _ => ?_
  dsimp only
  split
  · next result canned =>
      have built : (hooks site env).buildBodyOverride cfg = some result := by
        split at canned
        · cases canned
        · exact canned
      obtain ⟨bare, sent⟩ := hooks_override_bare built
      refine ends_ofExcept_bind fun decided read => finish_ends choices ?_
      unfold cannedReply at read
      obtain ⟨success, -, same⟩ := ok_of_bind read
      cases same
      exact ⟨bare, iff_of_true rfl (.inl sent)⟩
  · exact ends_ofExcept_bind fun verdict _ => answerVerdict_ends choices _ verdict

/-! ### The whole call -/

/-- What is recorded before the snapshot. -/
def recorded (hooks : Hooks) (request : RawRequest) (arrived : Bool) : List Effect :=
  (if arrived then [] else [.recordArrival request.headers]) ++
    ((hooks.bodyForHistory request).toList.map .recordBody ++ (hooks.pathForHistory request).toList.map .recordPath)

/-- What `serve` has done after the snapshot: the count, if there is one to take, and then the answer. -/
def Served (scenario : Scenario) (endpoint : Endpoint) (effects : List Effect) (result : ServeResult) : Prop :=
  ∃ targeted positive mode later, targets scenario endpoint = .ok targeted ∧
    (scenario .failFirstN).exceeds 0 = .ok positive ∧
    effects = (if positive && targeted then [.consumeFail] else []) ++ later ∧
    Closed (Listeners.policy scenario targeted mode) later result

theorem windowActive_inv {scenario : Scenario} {endpoint : Endpoint} {active : Bool}
    (read : windowActive scenario endpoint = .ok active) :
    ∃ targeted positive, targets scenario endpoint = .ok targeted ∧ (scenario .failFirstN).exceeds 0 = .ok positive ∧
      active = (positive && targeted) := by
  unfold windowActive at read
  obtain ⟨targeted, first, later⟩ := ok_of_bind read
  obtain ⟨positive, second, later⟩ := ok_of_bind later
  cases later
  exact ⟨targeted, positive, first, second, rfl⟩

theorem resolveMode_targeted {scenario : Scenario} {endpoint : Endpoint} {count : ℕ} {targeted flag : Bool}
    {mode : Value} (read : resolveMode scenario endpoint count = .ok (targeted, mode))
    (target : targets scenario endpoint = .ok flag) : targeted = flag := by
  have last : ∀ chosen : Value, (if !flag then pure (false, .str "success") else pure (true, chosen) :
      Except PyError (Bool × Value)) = .ok (targeted, mode) → targeted = flag := by
    intro chosen later
    cases flag with
    | false =>
        cases later
        rfl
    | true =>
        cases later
        rfl
  unfold resolveMode at read
  rw [target] at read
  obtain ⟨active, -, later⟩ := ok_of_bind (show windowActive scenario endpoint >>= _ = _ from read)
  dsimp only at later
  split at later
  · obtain ⟨past, -, later⟩ := ok_of_bind later
    exact last _ later
  · exact last _ later

theorem parsed_ends (choices : policy.Read) :
    ((hooks site env).parseRequest request >>= parsedReply (hooks site env) env request scenario policy).Ends
      (Closed policy) found := by
  have begins := ((hooks_parse_aside site env request).ends found).and (hooks_parse_bare request found)
  refine begins.bind fun before parse both => ?_
  suffices later : (parsedReply (hooks site env) env request scenario policy parse).Ends (Closed policy) found from
    later.mono fun _ _ closed => closed.before both.1
  cases parse with
  | direct result method label => exact finishEarly_ends choices (both.2 result method label rfl) method label
  | parseError text => exact finishEarly_ends choices ⟨⟨rfl, rfl, rfl, rfl⟩, rfl, rfl, rfl⟩ "*" .parseError
  | parsed parsed => exact answerParsed_ends choices

/-- **After the snapshot.** -/
theorem answer_ends :
    (answer site (hooks site env) env request scenario).Ends (Served scenario site.endpoint) found := by
  unfold answer
  refine ends_ofExcept_bind fun active read => ends_leaveAll_bind (ends_ofExcept_bind fun resolved whole => ?_)
  obtain ⟨targeted, positive, target, count, rfl⟩ := windowActive_inv read
  obtain ⟨flag, mode⟩ := resolved
  obtain rfl : flag = targeted := resolveMode_targeted whole target
  have choices := policy_read scenario flag mode
  suffices later : Ends (Closed (Listeners.policy scenario flag mode)) found _ from
    later.mono fun effects result closed => ⟨flag, positive, mode, effects, target, count, rfl, closed⟩
  dsimp only
  split
  · exact finishEarly_ends choices (hooks_buildDown_bare site env) "*" .down
  · exact parsed_ends choices

theorem serve_ends (arrived : Bool) :
    (serve site (hooks site env) env request arrived).Ends
      (fun effects result => ∃ later, effects = recorded (hooks site env) request arrived ++ later ∧
        Served scenario site.endpoint later result) scenario := by
  unfold serve arrival
  rw [bind_assoc, bind_assoc]
  refine ends_leaveAll_bind (ends_leaveAll_bind (ends_leaveAll_bind (ends_snapshot_bind ?_)))
  refine answer_ends.mono fun effects result served => ⟨effects, ?_, served⟩
  unfold recorded
  rw [List.append_assoc, List.append_assoc]

theorem Closed.withhold {effects : List Effect} {result : ServeResult} (closed : Closed policy effects result) :
    Closed policy effects (Rest.withholdBody request result) := by
  unfold Rest.withholdBody
  split
  · obtain ⟨aside, method, label, id, allowed, rfl, sent⟩ := closed
    refine ⟨aside, method, label, id, allowed, rfl, sent.replyHeaders, sent.replyTrailers, fun unclean => ?_⟩
    exact sent.marked fun clean =>
      unclean ⟨clean.corruptionMode, clean.missingField, clean.pauseAt, clean.pauseMs⟩
  · exact closed

/-- **Every exit of every listener.** -/
theorem serveAt_ends (arrived : Bool) :
    (serveAt site env request arrived).Ends
      (fun effects result => ∃ later, effects = recorded (hooks site env) request arrived ++ later ∧
        Served scenario site.endpoint later result) scenario := by
  unfold serveAt
  refine (serve_ends arrived).bind fun before result whole => ?_
  split
  · refine ends_done ?_
    obtain ⟨later, rfl, targeted, positive, mode, last, target, count, same, closed⟩ := whole
    exact ⟨later, List.append_nil _, targeted, positive, mode, last, target, count, same, closed.withhold⟩
  · refine ends_done ?_
    rw [List.append_nil]
    exact whole

end

end ProviderSimulator.Listeners
