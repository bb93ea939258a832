/-
**The gRPC replies that have their message.**

The adapter builds the message of a reply after the history row is finished. Whether it can is decided by the content
of the chain: an `error_stub` and an `error` override are a status, a `result` override is data of any shape, and the
height of a latest block comes from the head and `blocks_behind`.

* `HasReply` — each reply has its message, and nothing raises for a method that is overridden;
* `dressed_reply` — the corruptions: five of them make a status of the reply, and one clears a field of its message;
* `chain_hasReply` — **the content of the chain**, by the override that its entry has.
-/

import Mathlib.Tactic.Common
import ProviderSimulator.Listeners.GrpcMessages
import ProviderSimulator.Listeners.Totality

namespace ProviderSimulator.Listeners.Grpc

open ProviderSimulator.Lib ProviderSimulator.Lib.Flow ProviderSimulator.Python ProviderSimulator.Domain
open ProviderSimulator.Chains (Parsed Content Gives gives_ok not_gives_error)

/-! ### The entry, and the values of a message -/

/-- The entry of `responses` that the chain reads for the method. -/
def chainCfg (scenario : Scenario) (method : String) : List (Key × Value) :=
  match Chains.entryAt (entriesOf scenario) (.str method) with
  | .dict cfg => cfg
  | _ => []

/-- Has the method an `error_stub`, `error` or `result` override? -/
def overridden (scenario : Scenario) (method : String) : Bool :=
  ["error_stub", "error", "result"].any fun key => Dict.has (chainCfg scenario method) (.text key)

/-- Does a corruption make a status of a reply message? -/
def madeStatus (scenario : Scenario) (targeted : Bool) : Bool :=
  targeted && ((scenario .corruptionMode).eqText "wrong_type" ||
    unknownCorruptions.any (scenario .corruptionMode).eqText)

/-- Is the reply of the chain sent as a message? An error is a status. -/
def sentAsMessage (scenario : Scenario) (targeted : Bool) (method : String) : Bool :=
  !Dict.has (chainCfg scenario method) (.text "error_stub") && !Dict.has (chainCfg scenario method) (.text "error") &&
    !madeStatus scenario targeted

/-- Is a field of the message to be cleared? -/
def asksToClear (scenario : Scenario) (targeted : Bool) : Bool :=
  targeted && (scenario .corruptionMode).eqText "missing_field" && (scenario .missingField).truthy

/-- A shifted head that an `int64` field takes once it is raised to zero: an integer that is not too large, or any
number below zero. -/
def isHeight (shifted : Value) : Bool :=
  match shifted with
  | .int number => number < 2 ^ 63
  | other =>
      match other.less (.int 0) with
      | .ok below => below
      | .error _ => false

section

variable {scenario : Scenario} {method : String} (targeted : Bool)

theorem sentAsMessage_of_stub {name : Value}
    (stub : Dict.get (chainCfg scenario method) (.text "error_stub") = some name) :
    sentAsMessage scenario targeted method = false := by
  simp [sentAsMessage, Dict.has, stub]

theorem sentAsMessage_of_error {error : Value}
    (chosen : Dict.get (chainCfg scenario method) (.text "error") = some error) :
    sentAsMessage scenario targeted method = false := by
  simp [sentAsMessage, Dict.has, chosen]

theorem sentAsMessage_of_plain (stub : Dict.get (chainCfg scenario method) (.text "error_stub") = none)
    (plain : Dict.get (chainCfg scenario method) (.text "error") = none) :
    sentAsMessage scenario targeted method = true ↔ madeStatus scenario targeted = false := by
  simp [sentAsMessage, Dict.has, stub, plain]

theorem overridden_of_error {error : Value}
    (chosen : Dict.get (chainCfg scenario method) (.text "error") = some error) :
    overridden scenario method = true := by
  simp [overridden, Dict.has, chosen]

theorem overridden_of_plain (stub : Dict.get (chainCfg scenario method) (.text "error_stub") = none)
    (plain : Dict.get (chainCfg scenario method) (.text "error") = none)
    (noResult : Dict.get (chainCfg scenario method) (.text "result") = none) : overridden scenario method = false := by
  simp [overridden, Dict.has, stub, plain, noResult]

end

section

variable (site : Site) (env : Env) (scenario : Scenario) (method : String)

/-- The values that the message is built from fit its typed fields: the members of a `result` override, or else the
height of the latest block, where there is one. -/
def Fits : Prop :=
  match Dict.get (chainCfg scenario method) (.text "result") with
  | some result => fillable method (.object [("grpc_method", .str method), ("result", result)]) = true
  | none => method = "GetLatestBlock" → ∀ shifted,
      site.host.sub (.int env.head) (scenario .blocksBehind) = .ok shifted → isHeight shifted = true

/-- The chain has data for the method: a latest block has a height. -/
def HasData : Prop :=
  Dict.get (chainCfg scenario method) (.text "result") = none → method = "GetLatestBlock" →
    Gives (site.host.sub (.int env.head) (scenario .blocksBehind))

end

/-! ### Replies that have their message -/

/-- A plan that is a reply has its message. -/
def Delivered (protobuf : Protobuf) (host : Host) (now : UtcNow) (plan : ServeResult) : Prop :=
  ∀ method data, plan.body = .grpcReply method data → Gives (messageOf protobuf host now plan method data)

/-- **A served call has its reply**: each reply has its message, and nothing raises if the method is overridden. -/
def HasReply (protobuf : Protobuf) (host : Host) (now : UtcNow) (overridden : Bool)
    (served : Except PyError ServeResult) : Prop :=
  (∀ plan, served = .ok plan → Delivered protobuf host now plan) ∧ (overridden = true → Gives served)

section

variable {protobuf : Protobuf} {host : Host} {now : UtcNow} {given : Bool}

theorem hasReply_ok (plan : ServeResult) :
    HasReply protobuf host now given (.ok plan) ↔ Delivered protobuf host now plan := by
  constructor
  · exact fun has => has.1 plan rfl
  · intro delivered
    refine ⟨fun other same => ?_, fun _ => gives_ok plan⟩
    cases same
    exact delivered

/-- A sequence of two steps. -/
theorem hasReply_bind {T : Type} {first : Except PyError T} {next : T → Except PyError ServeResult} :
    HasReply protobuf host now given (first >>= next) ↔
      (∀ found, first = .ok found → HasReply protobuf host now given (next found)) ∧
        (given = true → Gives first) := by
  cases first with
  | ok found =>
      refine ⟨fun has => ⟨fun other same => ?_, fun _ => gives_ok found⟩, fun both => both.1 found rfl⟩
      cases same
      exact has
  | error error =>
      exact ⟨fun has => ⟨nofun, fun override => absurd (has.2 override) (not_gives_error error)⟩,
        fun both => ⟨nofun, fun override => absurd (both.2 override) (not_gives_error error)⟩⟩

/-- The chosen headers are no part of a message. -/
theorem delivered_withReplyHeaders {result sent : ServeResult} {chosen trailers : Value}
    (put : withReplyHeaders result chosen trailers = .ok sent) :
    Delivered protobuf host now sent ↔ Delivered protobuf host now result := by
  unfold withReplyHeaders at put
  split at put
  · cases put
    exact Iff.rfl
  · obtain ⟨headers, -, later⟩ := ok_of_bind put
    obtain ⟨trailing, -, later⟩ := ok_of_bind later
    cases later
    exact Iff.rfl

theorem hasReply_withReplyHeaders {policy : Policy} (sends : Sends policy) (result : ServeResult) :
    HasReply protobuf host now given (withReplyHeaders result policy.chosen policy.trailers) ↔
      Delivered protobuf host now result := by
  obtain ⟨sent, put⟩ := withReplyHeaders_gives sends result
  rw [put, hasReply_ok, delivered_withReplyHeaders put]

/-- A status has no message to build. -/
theorem delivered_status {plan : ServeResult} {code : String} {text : Value}
    (body : plan.body = .grpcStatus code text) : Delivered protobuf host now plan := by
  intro method data reply
  rw [body] at reply
  cases reply

end

/-! ### The end of the flow -/

section

variable {protobuf : Protobuf} {host : Host} {now : UtcNow} {site : Site} {env : Env} {scenario : Scenario}
  {targeted : Bool}

theorem delayed_body (decided : Decided) : decided.delayed.body = decided.result.body := by
  unfold Decided.delayed
  split <;> rfl

/-- A status stays as it is. -/
theorem dressed_status {decided : Decided} {code : String} {text : Value}
    (body : decided.result.body = .grpcStatus code text) :
    (decided.dressed (hooks site env) scenario targeted).1.body = .grpcStatus code text := by
  have delayed := (delayed_body decided).trans body
  have kept : corrupt site decided.delayed decided.label scenario = (decided.delayed, decided.label) := by
    unfold corrupt
    rw [delayed]
  unfold Decided.dressed
  split
  · show (corrupt site decided.delayed decided.label scenario).1.body = _
    rw [kept]
    exact delayed
  · exact delayed

/-- The message of a plan is built, and the field that it asks for is looked up. -/
theorem messageOf_gives (plan : ServeResult) (method : String) (data : Value) :
    Gives (messageOf protobuf host now plan method data) ↔
      Gives (buildReply protobuf host now method data) ∧
        ((plan.corruptionMode.eqText "missing_field" && plan.missingField.truthy) = true →
          Gives (protobuf.fieldNamed (replyFields method) plan.missingField)) := by
  unfold messageOf
  refine gives_bind_and fun response => ?_
  split
  · next asks =>
      refine (Chains.gives_bind_of_forall fun found _ => ?_).trans ?_
      · cases found <;> exact gives_ok _
      · exact ⟨fun gives _ => gives, fun gives => gives asks⟩
  · next plain => exact ⟨fun _ asks => absurd asks plain, fun _ => gives_ok response⟩

section

variable {plan : ServeResult} {label : Label} {method : String} {data : Value}

theorem delivered_reply (body : plan.body = .grpcReply method data) :
    Delivered protobuf host now plan ↔
      Gives (buildReply protobuf host now method data) ∧
        ((plan.corruptionMode.eqText "missing_field" && plan.missingField.truthy) = true →
          Gives (protobuf.fieldNamed (replyFields method) plan.missingField)) := by
  rw [← messageOf_gives]
  refine ⟨fun delivered => delivered method data body, fun gives other otherData same => ?_⟩
  cases body.symm.trans same
  exact gives

theorem corrupt_status (body : plan.body = .grpcReply method data) (made : madeStatus scenario true = true) :
    ∃ code text, (corrupt site plan label scenario).1.body = .grpcStatus code text := by
  unfold corrupt
  rw [body]
  dsimp only
  split
  · exact ⟨_, _, rfl⟩
  · next right =>
      unfold madeStatus at made
      rw [Bool.true_and, Bool.eq_false_iff.mpr right, Bool.false_or] at made
      rw [if_pos made]
      exact ⟨_, _, rfl⟩

/-- Any other corruption keeps the reply, and `missing_field` writes the name of the field on it. -/
theorem corrupt_kept (body : plan.body = .grpcReply method data) (kept : madeStatus scenario true = false) :
    (corrupt site plan label scenario).1 =
      if (scenario .corruptionMode).eqText "missing_field" then
        { plan with corruptionMode := .str "missing_field", missingField := scenario .missingField }
      else plan := by
  unfold madeStatus at kept
  rw [Bool.true_and, Bool.or_eq_false_iff] at kept
  unfold corrupt
  rw [body]
  dsimp only
  rw [kept.1, kept.2, if_neg Bool.false_ne_true, if_neg Bool.false_ne_true]
  split <;> rfl

end

/-- **A reply** has its message, unless a corruption makes it a status. -/
theorem dressed_reply {decided : Decided} {method : String} {data : Value} (clean : Clean decided.result)
    (action : decided.result.action = .respond) (body : decided.result.body = .grpcReply method data) :
    Delivered protobuf host now (decided.dressed (hooks site env) scenario targeted).1 ↔
      (madeStatus scenario targeted = false →
        Gives (buildReply protobuf host now method data) ∧ (asksToClear scenario targeted = true →
          Gives (protobuf.fieldNamed (replyFields method) (scenario .missingField)))) := by
  have delayed := (delayed_body decided).trans body
  have late := Decided.delayed_clean clean
  have responds : decided.delayed.action = .respond := by
    unfold Decided.delayed
    split <;> exact action
  cases targeted with
  | false =>
      rw [decided.dressed_untargeted, delivered_reply delayed, late.corruptionMode]
      unfold asksToClear madeStatus
      simp [Value.eqText]
  | true =>
      unfold Decided.dressed
      rw [if_pos ⟨responds, rfl⟩]
      show Delivered protobuf host now { (corrupt site decided.delayed decided.label scenario).1 with
        pauseAt := scenario .pauseAt, pauseMs := (scenario .pauseMs).orElse (.int 0) } ↔ _
      cases made : madeStatus scenario true with
      | true =>
          obtain ⟨code, text, status⟩ : ∃ code text,
              (corrupt site decided.delayed decided.label scenario).1.body = .grpcStatus code text :=
            corrupt_status delayed made
          exact ⟨fun _ kept => absurd kept.symm Bool.false_ne_true, fun _ => delivered_status status⟩
      | false =>
          rw [forall_prop_of_true rfl, corrupt_kept delayed made]
          unfold asksToClear
          split
          · next missing =>
              refine (delivered_reply (?_ : ServeResult.body _ = .grpcReply method data)).trans ?_
              · exact delayed
              · rw [missing]
                rfl
          · next other =>
              refine (delivered_reply (?_ : ServeResult.body _ = .grpcReply method data)).trans ?_
              · exact delayed
              · rw [late.corruptionMode, Bool.eq_false_iff.mpr other]
                simp [Value.eqText]

end

/-! ### The content of the chain -/

section

variable {protobuf : Protobuf} (typed : protobuf.Typed) {now : UtcNow} {site : Site} {env : Env}
  {scenario : Scenario} {policy : Policy}

/-- The status of an error can be looked up whatever its code is. -/
theorem statusOf_gives (code : Value) : Gives (statusOf code) := by
  have byText : ∀ text, ∃ found, statusByName (.str text) = .ok found := fun text => ⟨_, rfl⟩
  have byNumber : ∃ found, statusByValue (if code.isInt then code else .int (-1)) = .ok found := by
    cases code <;> exact ⟨_, rfl⟩
  obtain ⟨number, numbered⟩ := byNumber
  have named : ∃ found, statusByName (if code.isStr then code else .str "") = .ok found := by
    cases code <;> exact byText _
  obtain ⟨name, named⟩ := named
  unfold statusOf
  rw [named, ok_bind, numbered]
  cases name <;> exact gives_ok _

/-- An error of the chain is a status. -/
theorem buildSuccess_error (site : Site) (method code message : Value) :
    ∃ name, buildSuccess site (.object [
      ("grpc_method", method), ("error", .object [("code", code), ("message", message)])]) =
        .ok (statusReply name message) := by
  obtain ⟨name, named⟩ := statusOf_gives code
  refine ⟨name, ?_⟩
  show (do
    let found ← statusOf code
    pure (statusReply found message) : Except PyError ServeResult) = _
  rw [named]
  rfl

/-- The override of a result is a reply. -/
theorem buildSuccess_result (method : String) (result : Value) :
    buildSuccess site (.object [("grpc_method", .str method), ("result", result)]) =
      .ok { action := .respond
            body := .grpcReply method (.object [("grpc_method", .str method), ("result", result)]) } := rfl

/-- The end of a call whose chain gave this body. -/
def afterChain (site : Site) (env : Env) (scenario : Scenario) (policy : Policy)
    (settle : Value → ServeResult → Decided) (body : Value) : Except PyError ServeResult := do
  let result ← buildSuccess site body
  withReplyHeaders ((settle body result).dressed (hooks site env) scenario policy.targeted).1 policy.chosen
    policy.trailers

variable {given : Bool} {settle : Value → ServeResult → Decided}

theorem afterChain_status (sends : Sends policy) (settles : ∀ body result, (settle body result).result = result)
    {body : Value} {code : String} {text : Value} (built : buildSuccess site body = .ok (statusReply code text)) :
    HasReply protobuf site.host now given (afterChain site env scenario policy settle body) := by
  unfold afterChain
  rw [built, ok_bind, hasReply_withReplyHeaders sends]
  have status : (settle body (statusReply code text)).result.body = .grpcStatus code text := by
    rw [settles]
    rfl
  exact delivered_status (dressed_status status)

theorem afterChain_reply (sends : Sends policy) (settles : ∀ body result, (settle body result).result = result)
    {body data : Value} {method : String}
    (built : buildSuccess site body = .ok { action := .respond, body := .grpcReply method data }) :
    HasReply protobuf site.host now given (afterChain site env scenario policy settle body) ↔
      (madeStatus scenario policy.targeted = false →
        Gives (buildReply protobuf site.host now method data) ∧ (asksToClear scenario policy.targeted = true →
          Gives (protobuf.fieldNamed (replyFields method) (scenario .missingField)))) := by
  unfold afterChain
  rw [built, ok_bind, hasReply_withReplyHeaders sends]
  refine dressed_reply ?_ ?_ ?_
  · rw [settles]
    exact ⟨rfl, rfl, rfl, rfl⟩
  · rw [settles]
  · rw [settles]

/-- A difference of two numbers is an integer or a float. -/
theorem sub_number {host : Host} {a b shifted : Value} (gave : host.sub a b = .ok shifted) :
    (∃ number, shifted = .int number) ∨ ∃ number, shifted = .float number := by
  unfold Host.sub Host.add at gave
  split at gave
  · cases gave
    exact .inl ⟨_, rfl⟩
  · obtain ⟨first, -, later⟩ := ok_of_bind gave
    obtain ⟨second, -, later⟩ := ok_of_bind later
    cases later
    exact .inr ⟨_, rfl⟩

/-- The height of a latest block is a height if its shifted head is one. -/
theorem height_fillable {host : Host} {a b shifted : Value} (gave : host.sub a b = .ok shifted) :
    ∃ height, shifted.atLeastZero = .ok height ∧
      fillable "GetLatestBlock" (.object [
        ("grpc_method", .str "GetLatestBlock"), ("height", height),
        ("chain_id", .str Chains.Lava.lavaSimChainId)]) = isHeight shifted := by
  have read : ∀ height, fillable "GetLatestBlock" (.object [
      ("grpc_method", .str "GetLatestBlock"), ("height", height),
      ("chain_id", .str Chains.Lava.lavaSimChainId)]) = (height.isNone || isInt64 height) := by
    intro height
    show (true && ((height.isNone || isInt64 height) && true)) = _
    rw [Bool.and_true, Bool.true_and]
  rcases sub_number gave with ⟨number, rfl⟩ | ⟨number, rfl⟩
  -- A number below zero gives the height 0, and any other is the height itself: no `int64` field takes a float.
  · by_cases below : number < 0
    · have less : (Value.int number).less (.int 0) = .ok true := by
        show Except.ok (decide ((number : ℚ) < ((0 : ℤ) : ℚ))) = _
        rw [decide_eq_true (by exact_mod_cast below)]
      refine ⟨.int 0, ?_, ?_⟩
      · unfold Value.atLeastZero
        rw [less]
        rfl
      · rw [read]
        have small : number < 2 ^ 63 := by omega
        show true = decide (number < 2 ^ 63)
        rw [decide_eq_true small]
    · have less : (Value.int number).less (.int 0) = .ok false := by
        show Except.ok (decide ((number : ℚ) < ((0 : ℤ) : ℚ))) = _
        rw [decide_eq_false (by exact_mod_cast below)]
      refine ⟨.int number, ?_, ?_⟩
      · unfold Value.atLeastZero
        rw [less]
        rfl
      · rw [read]
        have above : -2 ^ 63 ≤ number := by omega
        show (decide (-2 ^ 63 ≤ number) && decide (number < 2 ^ 63)) = decide (number < 2 ^ 63)
        rw [decide_eq_true above, Bool.true_and]
  · have less : (Value.float number).less (.int 0) = .ok (number.less (.finite ((0 : ℤ) : ℚ))) := rfl
    have height : isHeight (.float number) = number.less (.finite ((0 : ℤ) : ℚ)) := rfl
    unfold Value.atLeastZero
    rw [less, height]
    cases number.less (.finite ((0 : ℤ) : ℚ)) with
    | true => exact ⟨.int 0, rfl, read _⟩
    | false => exact ⟨.float number, rfl, read _⟩

/-- The body of the entry of the method, or else its data, and the rest of the call. -/
def answerEntry (site : Site) (head : ℤ) (scenario : Scenario) (method : String)
    (next : Value → Except PyError ServeResult) : Except PyError ServeResult := do
  match ← Chains.Lava.grpcEntry site.host (.str method) (chainCfg scenario method) with
  | some body => next body
  | none => do
      let data ← Chains.Lava.grpcData site.host head (scenario .blocksBehind) (.str method)
      next data

/-- The content of the chain, and the rest of the call. -/
theorem chain_eq (shaped : Control.Shaped scenario) {parsed : Parsed} {method : String}
    (named : parsed.getD "method" (.str "unknown") = .str method) (head : ℤ)
    (next : Value → Except PyError ServeResult) :
    (Chains.Lava.buildGrpc site.host parsed scenario head >>= fun content => next content.body) =
      answerEntry site head scenario method next := by
  have entry : Chains.methodCfgOf (Chains.responsesOf scenario) (.str method) =
      .ok (Chains.entryAt (entriesOf scenario) (.str method)) := by
    rw [(responsesOf_eq shaped).2]
    exact Chains.methodCfgOf_eq _ rfl
  have whole : ∀ found : Except PyError (Option Value), ((do
      let entry ← found
      match entry with
      | some body => pure { status := .int 200, body }
      | none => pure {
          status := .int 200
          body := ← Chains.Lava.grpcData site.host head (scenario .blocksBehind) (.str method) } :
        Except PyError Content) >>= fun content => next content.body) =
      (do
        match ← found with
        | some body => next body
        | none => do
            let data ← Chains.Lava.grpcData site.host head (scenario .blocksBehind) (.str method)
            next data) := by
    intro found
    cases found with
    | error error => rfl
    | ok entry =>
        cases entry with
        | some body => rfl
        | none => cases Chains.Lava.grpcData site.host head (scenario .blocksBehind) (.str method) <;> rfl
  unfold Chains.Lava.buildGrpc answerEntry chainCfg
  rw [named]
  dsimp only
  rw [entry, ok_bind]
  cases Chains.entryAt (entriesOf scenario) (.str method) with
  | dict cfg => exact whole _
  | _ => exact whole (.ok none)

/-! ### The overrides, one by one -/

variable (sends : Sends policy) (settles : ∀ body result, (settle body result).result = result) {method : String}

include sends settles

/-- A stub is a status. -/
theorem stub_hasReply {name : Value} (stub : Dict.get (chainCfg scenario method) (.text "error_stub") = some name) :
    HasReply protobuf site.host now given
      (answerEntry site env.head scenario method (afterChain site env scenario policy settle)) := by
  unfold answerEntry Chains.Lava.grpcEntry
  rw [stub]
  obtain ⟨code, built⟩ := buildSuccess_error site (.str method) (if name.isStr then name else .str "")
    (.str (site.host.text ((Dict.get (chainCfg scenario method) (.text "message")).getD name)))
  exact afterChain_status sends settles built

/-- An error that is an object is a status, and any other raises. -/
theorem error_hasReply {error : Value} (stub : Dict.get (chainCfg scenario method) (.text "error_stub") = none)
    (chosen : Dict.get (chainCfg scenario method) (.text "error") = some error) :
    HasReply protobuf site.host now true
        (answerEntry site env.head scenario method (afterChain site env scenario policy settle)) ↔
      error.isDict = true := by
  unfold answerEntry Chains.Lava.grpcEntry
  rw [stub, chosen]
  have raised : ∀ error : PyError, ¬ HasReply protobuf site.host now true (.error error) :=
    fun error has => not_gives_error error (has.2 rfl)
  cases error with
  | dict entries =>
      obtain ⟨code, built⟩ := buildSuccess_error site (.str method)
        ((Dict.get entries (.text "code")).getD (.str "")) ((Dict.get entries (.text "message")).getD (.str "override"))
      exact ⟨fun _ => rfl, fun _ => afterChain_status sends settles built⟩
  | _ => exact ⟨fun has => absurd has (raised _), nofun⟩

/-- A result is a reply. -/
theorem result_hasReply {result : Value} (stub : Dict.get (chainCfg scenario method) (.text "error_stub") = none)
    (plain : Dict.get (chainCfg scenario method) (.text "error") = none)
    (chosen : Dict.get (chainCfg scenario method) (.text "result") = some result) :
    HasReply protobuf site.host now given
        (answerEntry site env.head scenario method (afterChain site env scenario policy settle)) ↔
      (madeStatus scenario policy.targeted = false →
        Gives (buildReply protobuf site.host now method (.object [("grpc_method", .str method), ("result", result)])) ∧
          (asksToClear scenario policy.targeted = true →
            Gives (protobuf.fieldNamed (replyFields method) (scenario .missingField)))) := by
  unfold answerEntry Chains.Lava.grpcEntry
  rw [stub, plain, chosen]
  exact afterChain_reply sends settles (buildSuccess_result method result)

/-- The data of a method that always has some is a reply, whose message is always built. -/
theorem fixed_hasReply {data : Value}
    (gave : Chains.Lava.grpcData site.host env.head (scenario .blocksBehind) (.str method) = .ok data)
    (built : buildSuccess site data = .ok { action := .respond, body := .grpcReply method data })
    (fills : Gives (buildReply protobuf site.host now method data))
    (absent : Chains.Lava.grpcEntry site.host (.str method) (chainCfg scenario method) = .ok none) :
    HasReply protobuf site.host now given
        (answerEntry site env.head scenario method (afterChain site env scenario policy settle)) ↔
      (madeStatus scenario policy.targeted = false →
        asksToClear scenario policy.targeted = true →
          Gives (protobuf.fieldNamed (replyFields method) (scenario .missingField))) := by
  unfold answerEntry
  rw [absent, ok_bind]
  dsimp only
  rw [gave, ok_bind, afterChain_reply sends settles built]
  exact imp_congr_right fun _ => and_iff_right fills

/-- The latest block has the height that the shifted head gives, if it gives one. -/
theorem latestBlock_hasReply (typed : protobuf.Typed)
    (absent : Chains.Lava.grpcEntry site.host (.str "GetLatestBlock") (chainCfg scenario "GetLatestBlock") = .ok none) :
    HasReply protobuf site.host now false
        (answerEntry site env.head scenario "GetLatestBlock" (afterChain site env scenario policy settle)) ↔
      (madeStatus scenario policy.targeted = false →
        ∀ shifted, site.host.sub (.int env.head) (scenario .blocksBehind) = .ok shifted → isHeight shifted = true ∧
          (asksToClear scenario policy.targeted = true →
            Gives (protobuf.fieldNamed (replyFields "GetLatestBlock") (scenario .missingField)))) := by
  have data : Chains.Lava.grpcData site.host env.head (scenario .blocksBehind) (.str "GetLatestBlock") =
      site.host.sub (.int env.head) (scenario .blocksBehind) >>= fun shifted => shifted.atLeastZero >>= fun height =>
        .ok (.object [("grpc_method", .str "GetLatestBlock"), ("height", height),
          ("chain_id", .str Chains.Lava.lavaSimChainId)]) := by
    show (Chains.Lava.effectiveHead site.host env.head (scenario .blocksBehind) >>= fun height => _) = _
    unfold Chains.Lava.effectiveHead
    cases site.host.sub (.int env.head) (scenario .blocksBehind) <;> rfl
  unfold answerEntry
  rw [absent, ok_bind]
  dsimp only
  rw [data]
  cases gave : site.host.sub (.int env.head) (scenario .blocksBehind) with
  | error error =>
      refine ⟨fun _ _ _ same => absurd same (by simp), fun _ => ⟨fun _ same => ?_, by simp⟩⟩
      cases same
  | ok shifted =>
      obtain ⟨height, raised, fills⟩ := height_fillable gave
      have built : buildSuccess site (.object [("grpc_method", .str "GetLatestBlock"), ("height", height),
            ("chain_id", .str Chains.Lava.lavaSimChainId)]) =
          .ok { action := .respond
                body := .grpcReply "GetLatestBlock" (.object [("grpc_method", .str "GetLatestBlock"),
                  ("height", height), ("chain_id", .str Chains.Lava.lavaSimChainId)]) } := rfl
      have latest : "GetLatestBlock" ∈ servedMethods := by decide
      rw [ok_bind, raised, ok_bind, ok_bind, afterChain_reply sends settles built,
        buildReply_gives typed site.host now latest, fills]
      constructor
      · intro needs kept other same
        cases same
        exact needs kept
      · exact fun needs kept => needs kept shifted rfl

/-- Without an override a method has its data: the height of a latest block must fit, and the data of the others
always does. -/
theorem data_hasReply (typed : protobuf.Typed) (served : method ∈ servedMethods)
    (stub : Dict.get (chainCfg scenario method) (.text "error_stub") = none)
    (plain : Dict.get (chainCfg scenario method) (.text "error") = none)
    (noResult : Dict.get (chainCfg scenario method) (.text "result") = none) :
    HasReply protobuf site.host now false
        (answerEntry site env.head scenario method (afterChain site env scenario policy settle)) ↔
      (madeStatus scenario policy.targeted = false → Fits site env scenario method) ∧
      (madeStatus scenario policy.targeted = false → HasData site env scenario method →
        asksToClear scenario policy.targeted = true →
          Gives (protobuf.fieldNamed (replyFields method) (scenario .missingField))) := by
  have absent : Chains.Lava.grpcEntry site.host (.str method) (chainCfg scenario method) = .ok none := by
    unfold Chains.Lava.grpcEntry
    rw [stub, plain, noResult]
    rfl
  unfold Fits HasData
  rw [noResult]
  by_cases latest : method = "GetLatestBlock"
  · subst latest
    rw [latestBlock_hasReply sends settles typed absent]
    constructor
    · intro needs
      refine ⟨fun kept _ shifted gave => (needs kept shifted gave).1, fun kept data => ?_⟩
      obtain ⟨shifted, gave⟩ := data rfl rfl
      exact (needs kept shifted gave).2
    · exact fun needs kept shifted gave => ⟨needs.1 kept rfl shifted gave, needs.2 kept fun _ _ => ⟨shifted, gave⟩⟩
  · obtain ⟨data, gave, built, fills⟩ : ∃ data,
        Chains.Lava.grpcData site.host env.head (scenario .blocksBehind) (.str method) = .ok data ∧
          buildSuccess site data = .ok { action := .respond, body := .grpcReply method data } ∧
            fillable method data = true := by
      simp only [servedMethods, List.mem_cons, List.not_mem_nil, or_false] at served
      rcases served with same | rfl | rfl
      · exact absurd same latest
      · exact ⟨_, rfl, rfl, by decide⟩
      · exact ⟨_, rfl, rfl, by decide⟩
    rw [fixed_hasReply sends settles gave built ((buildReply_gives typed site.host now served data).mpr fills) absent]
    exact ⟨fun needs => ⟨fun _ same => absurd same latest, fun kept _ => needs kept⟩,
      fun needs kept => needs.2 kept fun _ same => absurd same latest⟩

/-- **The content of the chain**, by the override of its entry. -/
theorem chain_hasReply (typed : protobuf.Typed) (served : method ∈ servedMethods) :
    HasReply protobuf site.host now (overridden scenario method)
        (answerEntry site env.head scenario method (afterChain site env scenario policy settle)) ↔
      (Dict.get (chainCfg scenario method) (.text "error_stub") = none →
        ∀ error, Dict.get (chainCfg scenario method) (.text "error") = some error → error.isDict = true) ∧
      (sentAsMessage scenario policy.targeted method = true → Fits site env scenario method) ∧
      (sentAsMessage scenario policy.targeted method = true → HasData site env scenario method →
        asksToClear scenario policy.targeted = true → (scenario .missingField).hashable = true ∨
          Gives (protobuf.fieldNamed (replyFields method) (scenario .missingField))) := by
  have lookup : ((scenario .missingField).hashable = true ∨
      Gives (protobuf.fieldNamed (replyFields method) (scenario .missingField))) ↔
        Gives (protobuf.fieldNamed (replyFields method) (scenario .missingField)) :=
    or_iff_right_of_imp fun hashable => typed.fieldNamed _ hashable
  rw [lookup]
  cases stub : Dict.get (chainCfg scenario method) (.text "error_stub") with
  | some name =>
      rw [sentAsMessage_of_stub policy.targeted stub]
      exact ⟨fun _ => ⟨by simp, by simp, by simp⟩, fun _ => stub_hasReply sends settles stub⟩
  | none =>
      cases chosen : Dict.get (chainCfg scenario method) (.text "error") with
      | some error =>
          rw [sentAsMessage_of_error policy.targeted chosen, overridden_of_error chosen,
            error_hasReply sends settles stub chosen]
          simp
      | none =>
          rw [sentAsMessage_of_plain policy.targeted stub chosen]
          cases result : Dict.get (chainCfg scenario method) (.text "result") with
          | some value =>
              unfold Fits HasData
              rw [result_hasReply sends settles stub chosen result, buildReply_gives typed site.host now served, result]
              constructor
              · exact fun needs => ⟨by simp, fun kept => (needs kept).1, fun kept _ => (needs kept).2⟩
              · exact fun needs kept => ⟨needs.2.1 kept, needs.2.2 kept (by simp)⟩
          | none =>
              rw [overridden_of_plain stub chosen result, data_hasReply sends settles typed served stub chosen result]
              simp

end

end ProviderSimulator.Listeners.Grpc
