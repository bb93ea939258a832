/-
**The two forms of a Tendermint call.**

A client asks with GET, where the query holds the JSON text of each parameter, or with POST, where the body holds the
values. Both go through one normaliser, which takes the first item of a list and reads a text as JSON. A GET needs that:
its values are lists of JSON texts. A value of a POST is read a second time.

* `GetForm` and `PostForm` — the two forms of one call;
* `reread` — what the second reading makes of a value;
* `get_parses` and `post_parses` — the parameters that the chain is given: the values, and the values read again;
* `Settled` — the second reading changes nothing that the method reads;
* `forms_agree_iff` — **the two forms get one reply, under every scenario and at every head, if and only if the
  parameters are settled.**
-/

import Mathlib.Tactic.Common
import ProviderSimulator.Chains.TendermintCalls
import ProviderSimulator.Listeners.TwoRequests

namespace ProviderSimulator.Listeners

open ProviderSimulator.Lib ProviderSimulator.Python ProviderSimulator.Domain
open ProviderSimulator.Lib.Flow (Paired)
open ProviderSimulator.FaultPolicy (Verdict)
open ProviderSimulator.Chains (Parsed Content errorEnvelope resultEnvelope)
open ProviderSimulator.Chains.Lava (TmPlan tmPlan buildTm_eq paramOf SameReads tmPlan_congr tmPlan_default tmResult_zero
  sameReads_of_tmResult sameReads_unknown)

/-! ### The forms -/

/-- The call as a GET: each parameter is a JSON text of its value. -/
structure GetForm (host : Host) (method : String) (params : List (String × Value)) (request : RawRequest) : Prop where
  verb : request.verb.toUpper = "GET"
  path : request.path = "/" ++ method
  query : ∃ texts : List (String × String),
    request.query = .object (texts.map fun text => (text.1, .list [.str text.2])) ∧
    List.Forall₂ (fun text param => text.1 = param.1 ∧ host.loadsText text.2 = .ok param.2) texts params

/-- The call as a POST: a JSON object with the method and the parameters. -/
structure PostForm (host : Host) (method : String) (params : List (String × Value)) (request : RawRequest) : Prop where
  verb : request.verb.toUpper = "POST"
  given : request.body ≠ []
  body : ∃ entries, host.loads request.body = .ok (.dict entries) ∧
    Dict.get entries (.text "method") = some (.str method) ∧
    Dict.get entries (.text "params") = some (.object params)

/-- A method name that a path can hold: not empty, with no slash at its ends. -/
structure Named (method : String) : Prop where
  given : method ≠ ""
  first : method.toList.head? ≠ some '/'
  last : method.toList.getLast? ≠ some '/'

/-- A parsed call. -/
def tmCall (method : String) (params id : Value) : Parsed where
  fields := [("method", .str method), ("params", params), ("id", id)]

/-! ### The parameters that the chain is given -/

/-- What a second reading makes of a value, if it can be read. -/
def reread (site : Site) (value : Value) : Value :=
  match Tendermint.normalizeParam site value with
  | .ok read => read
  | .error _ => value

/-- The parameters, each one read again. -/
def rereadAll (site : Site) (params : List (String × Value)) : List (String × Value) :=
  params.map fun param => (param.1, reread site param.2)

/-- The second reading of each parameter gives a value. A text that nests too deep raises. -/
def ReadsAgain (site : Site) (params : List (String × Value)) : Prop :=
  ∀ param ∈ params, ∃ read, Tendermint.normalizeParam site param.2 = .ok read

section

variable {site : Site} {method : String} {params : List (String × Value)}

theorem dropWhile_slash {chars : List Char} (first : chars.head? ≠ some '/') :
    chars.dropWhile (fun char => char = '/') = chars := by
  cases chars with
  | nil => rfl
  | cons char rest =>
      have other : char ≠ '/' := fun same => first (congrArg some same)
      rw [List.dropWhile_cons, if_neg (by simpa using other)]

theorem stripSlashes_named (named : Named method) : Tendermint.stripSlashes ("/" ++ method) = method := by
  have front : ("/" ++ method).toList.dropWhile (fun char => char = '/') = method.toList := by
    rw [String.toList_append]
    exact dropWhile_slash named.first
  have back : method.toList.reverse.head? ≠ some '/' := by
    rw [List.head?_reverse]
    exact named.last
  unfold Tendermint.stripSlashes
  dsimp only
  rw [front, dropWhile_slash back, List.reverse_reverse, String.ofList_toList]

/-- The loop of the normaliser over the members of an object. -/
theorem normalizeParams_cons (member : String × Value) (rest : List (String × Value)) :
    Tendermint.normalizeParams site (.object (member :: rest)) = (do
      let read ← Tendermint.normalizeParam site member.2
      match ← Tendermint.normalizeParams site (.object rest) with
      | .dict entries => pure (.dict ((.text member.1, read) :: entries))
      | other => pure other) := by
  unfold Tendermint.normalizeParams Value.object
  dsimp only
  rw [List.map_cons, List.mapM_cons]
  cases Tendermint.normalizeParam site member.2 with
  | error error => rfl
  | ok read =>
      dsimp only
      generalize (List.mapM (fun entry : Key × Value => _) _ : Except PyError (List (Key × Value))) = later
      cases later with
      | error error => rfl
      | ok entries => rfl

/-- The values of a POST are read again, or one of them raises. -/
theorem normalizeParams_object (site : Site) (params : List (String × Value)) :
    (ReadsAgain site params ∧
      Tendermint.normalizeParams site (.object params) = .ok (.object (rereadAll site params))) ∨
    (¬ ReadsAgain site params ∧ ∃ error, Tendermint.normalizeParams site (.object params) = .error error) := by
  induction params with
  | nil => exact .inl ⟨nofun, rfl⟩
  | cons param rest ih =>
      rw [normalizeParams_cons]
      cases read : Tendermint.normalizeParam site param.2 with
      | error error =>
          refine .inr ⟨fun readable => ?_, error, rfl⟩
          obtain ⟨value, same⟩ := readable param List.mem_cons_self
          cases read.symm.trans same
      | ok value =>
          rw [ok_bind]
          rcases ih with ⟨readable, rest_eq⟩ | ⟨unreadable, error, raised⟩
          · refine .inl ⟨fun other member => ?_, ?_⟩
            · rcases List.mem_cons.mp member with rfl | later
              · exact ⟨value, read⟩
              · exact readable other later
            · have again : reread site param.2 = value := by
                unfold reread
                rw [read]
              rw [rest_eq, ok_bind]
              unfold rereadAll
              rw [List.map_cons, again]
              rfl
          · refine .inr ⟨fun readable => unreadable fun other member => ?_, error, ?_⟩
            · exact readable other (List.mem_cons_of_mem _ member)
            · rw [raised]
              rfl

/-- The values of a GET are read once. -/
theorem normalizeParams_texts {texts : List (String × String)}
    (reads : List.Forall₂ (fun text param => text.1 = param.1 ∧ site.host.loadsText text.2 = .ok param.2) texts params) :
    Tendermint.normalizeParams site (.object (texts.map fun text => (text.1, .list [.str text.2]))) =
      .ok (.object params) := by
  induction reads with
  | nil => rfl
  | @cons text param texts params first later ih =>
      have read : Tendermint.normalizeParam site (.list [.str text.2]) = .ok param.2 := by
        unfold Tendermint.normalizeParam
        dsimp only
        rw [first.2]
      rw [List.map_cons, normalizeParams_cons, read, ok_bind, ih, ok_bind, first.1]
      rfl

/-- **The parameters are settled**: each one can be read again, and the second reading changes nothing that the method
reads. -/
structure Settled (site : Site) (method : String) (params : List (String × Value)) : Prop where
  readable : ReadsAgain site params
  same : SameReads site.host method params (rereadAll site params)

end

/-! ### Parsing -/

section

variable {site : Site} {env : Env} {method : String} {params : List (String × Value)} {request : RawRequest}

theorem hooks_tendermint (tm : site.endpoint.interface = .tendermintrpc) (env : Env) :
    hooks site env = Tendermint.hooks site env := by
  unfold hooks
  rw [tm]

theorem get_parses (named : Named method) (form : GetForm site.host method params request) :
    (Tendermint.hooks site env).parseRequest request =
      Flow.ofExcept (.ok (.parsed (tmCall method (.object params) (.int env.nextId)))) := by
  obtain ⟨texts, query, reads⟩ := form.query
  have parsed : Tendermint.parseGet site env request =
      .ok (.parsed (tmCall method (.object params) (.int env.nextId))) := by
    unfold Tendermint.parseGet
    dsimp only
    rw [form.path, stripSlashes_named named, if_neg named.given]
    unfold Tendermint.parsedCall
    rw [query, normalizeParams_texts reads]
    rfl
  change Flow.ofExcept (if request.verb.toUpper = "GET" then _ else _) = _
  rw [if_pos form.verb, parsed]

theorem post_parses (named : Named method) (form : PostForm site.host method params request) :
    ∃ id, (Tendermint.hooks site env).parseRequest request =
      Flow.ofExcept ((Tendermint.normalizeParams site (.object params)).map fun read =>
        .parsed (tmCall method read id)) := by
  obtain ⟨entries, loads, hasMethod, hasParams⟩ := form.body
  refine ⟨(Dict.get entries (.text "id")).getD .none, ?_⟩
  have given : request.body.isEmpty = false := by
    rw [List.isEmpty_eq_false_iff]
    exact form.given
  change Flow.ofExcept (if request.verb.toUpper = "GET" then _ else _) = _
  rw [form.verb, if_neg (by decide)]
  unfold Tendermint.parsePost
  rw [given, loads]
  dsimp only
  rw [if_neg Bool.false_ne_true, hasMethod]
  dsimp only
  rw [if_neg named.given, hasParams]
  change Flow.ofExcept (Tendermint.normalizeParams site (.object params) >>= _) = _
  cases Tendermint.normalizeParams site (.object params) <;> rfl

end

/-! ### Replies that differ in the request id -/

/-- The body without its request id. -/
def Body.withoutId : Body → Body
  | .value (.dict entries) => .value (.dict (entries.filter fun entry => entry.1 ≠ .text "id"))
  | other => other

/-- The bodies differ at most in their request id. -/
def ApartFromId (first second : Body) : Prop := first.withoutId = second.withoutId

theorem apartFromId_error (id id' error : Value) :
    ApartFromId (.value (errorEnvelope id error)) (.value (errorEnvelope id' error)) := rfl

theorem apartFromId_result (id id' result : Value) :
    ApartFromId (.value (resultEnvelope id result)) (.value (resultEnvelope id' result)) := rfl

theorem result_of_apartFromId {id id' result result' : Value}
    (apart : ApartFromId (.value (resultEnvelope id result)) (.value (resultEnvelope id' result'))) : result = result' := by
  have same : Body.value (.object [("jsonrpc", .str "2.0"), ("result", result)]) =
      .value (.object [("jsonrpc", .str "2.0"), ("result", result')]) := apart
  simpa [Value.object] using same

section

variable {site : Site} {env : Env} {scenario found : Scenario} {method : String} {params : List (String × Value)}
  {request request' : RawRequest}

/-- What the forms leave behind is not compared: the rows have two request ids. -/
def AnyEffects (_ _ : Effect) : Prop := True

theorem tendermint_fair (site : Site) (env : Env) : Fair (Tendermint.hooks site env) AnyEffects ApartFromId where
  refl _ := rfl
  left _ := trivial
  corrupt label scenario twin :=
    ⟨twin.change (fun result => (corrupt result label scenario).1) (fun _ => rfl) fun _ _ => rfl, rfl⟩

theorem buildFault_twin (verdict : Verdict) (params params' id id' : Value) :
    Twin ApartFromId (Tendermint.buildFault verdict (tmCall method params id))
      (Tendermint.buildFault verdict (tmCall method params' id')) := by
  unfold Tendermint.buildFault bodilessFault
  cases verdict with
  | hang => exact ⟨rfl, rfl⟩
  | drop dropAt => exact ⟨rfl, rfl⟩
  | _ => exact ⟨rfl, apartFromId_error id id' _⟩

/-- The chain of a Tendermint endpoint. -/
theorem buildSuccess_tm (lava : site.chain = .lava) (tm : site.endpoint.interface = .tendermintrpc)
    (params : List (String × Value)) (id : Value) :
    Chains.buildSuccess site.host site.reader site.chain site.endpoint.interface (tmCall method (.object params) id)
        scenario env.quirks env.head =
      (tmPlan site.host env.head (.str method) (.object params) scenario).map fun plan => plan.content id := by
  have orElse : (Value.object params).orElse (.dict []) = .object params := by
    cases params with
    | nil => rfl
    | cons param rest => rfl
  have built : Chains.Lava.buildTm site.host (tmCall method (.object params) id) scenario env.head = _ := buildTm_eq _
  rw [lava, tm]
  change Chains.Lava.buildTm site.host _ scenario env.head = _
  rw [built]
  change (tmPlan site.host env.head (.str method) ((Value.object params).orElse (.dict [])) scenario).map _ = _
  rw [orElse]
  rfl

/-- The label of a reply with a plan. -/
theorem successLabel_plan (plan : TmPlan) (id : Value) :
    Tendermint.successLabel plan.status (plan.content id).body =
      (isSuccess plan.status).map fun success => if !success then .error else if plan.failed then .error else .success := by
  unfold Tendermint.successLabel
  cases isSuccess plan.status with
  | error error => rfl
  | ok success =>
      obtain ⟨status, failed, payload⟩ := plan
      cases success with
      | false => rfl
      | true =>
          cases failed with
          | true => rfl
          | false => rfl

/-- The contents of two calls with one plan. -/
theorem succeed_paired (lava : site.chain = .lava) (tm : site.endpoint.interface = .tendermintrpc)
    {one other : List (String × Value)} {id id' : Value}
    (plans : tmPlan site.host env.head (.str method) (.object one) scenario =
      tmPlan site.host env.head (.str method) (.object other) scenario) (latency : Value) :
    Paired AnyEffects (Decided.Twin AnyEffects ApartFromId (.str method) (.str method)) found
      (succeed (Tendermint.hooks site env) scenario latency (tmCall method (.object one) id) request)
      (succeed (Tendermint.hooks site env) scenario latency (tmCall method (.object other) id') request') := by
  -- Both contents are one plan, in two envelopes.
  have contents : Paired AnyEffects (fun first second => ∃ plan : TmPlan,
      first = (plan.status, (plan.content id).body) ∧ second = (plan.status, (plan.content id').body)) found
      (buildContent site env (tmCall method (.object one) id) scenario request)
      (buildContent site env (tmCall method (.object other) id') scenario request') := by
    unfold buildContent chainContent
    rw [buildSuccess_tm lava tm, buildSuccess_tm lava tm, plans]
    cases tmPlan site.host env.head (.str method) (.object other) scenario with
    | error error => exact ⟨.nil, .error error⟩
    | ok plan => exact ⟨.nil, .ok ⟨plan, rfl, rfl⟩⟩
  unfold succeed
  refine contents.bind ?_
  rintro first second ⟨plan, rfl, rfl⟩
  have bodies : ApartFromId (.value (plan.content id).body) (.value (plan.content id').body) := by
    obtain ⟨status, failed, payload⟩ := plan
    cases failed with
    | true => exact apartFromId_error id id' payload
    | false => exact apartFromId_result id id' payload
  have results : Ended (Twin ApartFromId) (.ok (buildSuccess plan.status (plan.content id).body) : Except PyError _)
      (.ok (buildSuccess plan.status (plan.content id').body)) := .ok ⟨rfl, bodies⟩
  refine .bind (.ofExcept results) fun result result' twin => ?_
  change Paired _ _ _ (Flow.ofExcept (Tendermint.successLabel plan.status (plan.content id).body) >>= _)
    (Flow.ofExcept (Tendermint.successLabel plan.status (plan.content id').body) >>= _)
  rw [successLabel_plan, successLabel_plan]
  exact .ofExcept_bind fun label _ => .done ⟨twin, rfl, fun _ _ => trivial, rfl, rfl⟩

/-! ### Whole calls -/

theorem serveAt_result (tm : site.endpoint.interface = .tendermintrpc) (arrived : Bool) :
    ((serveAt site env request arrived).outcomeAt scenario).result =
      ((answer site (Tendermint.hooks site env) env request scenario).outcomeAt scenario).result := by
  have rest : ¬ site.endpoint.interface = .rest := by
    rw [tm]
    decide
  unfold serveAt
  simp only [if_neg rest]
  rw [Flow.result_followedBy, serve_result, hooks_tendermint tm]
  cases ((answer site (Tendermint.hooks site env) env request scenario).outcomeAt scenario).result <;> rfl

/-- **The reply at the defaults** to a call that parses. -/
theorem answer_tm_default (lava : site.chain = .lava) (tm : site.endpoint.interface = .tendermintrpc) {id : Value}
    {plan : TmPlan} {success : Bool}
    (parses : (Tendermint.hooks site env).parseRequest request =
      Flow.ofExcept (.ok (.parsed (tmCall method (.object params) id))))
    (planned : tmPlan site.host env.head (.str method) (.object params) ScenarioField.default = .ok plan)
    (status : isSuccess plan.status = .ok success) :
    ((answer site (Tendermint.hooks site env) env request ScenarioField.default).outcomeAt ScenarioField.default).result =
      .ok (respond plan.status (plan.content id).body) := by
  have content : ((buildContent site env (tmCall method (.object params) id) ScenarioField.default request).outcomeAt
      ScenarioField.default).result = .ok (plan.status, (plan.content id).body) := by
    unfold buildContent chainContent
    rw [buildSuccess_tm lava tm, planned]
    rfl
  have label : ∃ label, Tendermint.successLabel plan.status (plan.content id).body = .ok label := by
    rw [successLabel_plan, status]
    exact ⟨_, rfl⟩
  obtain ⟨label, labels⟩ := label
  exact answer_default_reply (hooks_tendermint tm env) parses
    (methodCfg_default (tmCall method (.object params) id) rfl) content rfl labels

/-- A known method at the defaults. -/
theorem answer_tm_known (lava : site.chain = .lava) (tm : site.endpoint.interface = .tendermintrpc) {id stub : Value}
    (known : Stubs.tendermintMethodDefaults.get method = some stub)
    (parses : (Tendermint.hooks site env).parseRequest request =
      Flow.ofExcept (.ok (.parsed (tmCall method (.object params) id)))) :
    ∃ result, Chains.Lava.tmResult site.host env.head (.int 0) (.object params) method stub = .ok result ∧
      ((answer site (Tendermint.hooks site env) env request ScenarioField.default).outcomeAt
        ScenarioField.default).result = .ok (respond (.int 200) (resultEnvelope id result)) := by
  obtain ⟨result, computed⟩ := tmResult_zero site.host env.head method params stub
  refine ⟨result, computed, ?_⟩
  have planned : tmPlan site.host env.head (.str method) (.object params) ScenarioField.default =
      .ok ⟨.int 200, false, result⟩ := by
    rw [tmPlan_default known, computed]
    rfl
  exact answer_tm_default lava tm parses planned rfl

/-- The two forms of one call: both raise the same, or get replies that are the same apart from the request id in the
body, under every scenario and in every environment. -/
def FormsAgree (site : Site) (get post : RawRequest) : Prop :=
  ∀ env scenario arrived, Ended (Twin ApartFromId) ((serveAt site env get arrived).outcomeAt scenario).result
    ((serveAt site env post arrived).outcomeAt scenario).result

theorem formsAgree_of_settled (lava : site.chain = .lava) (tm : site.endpoint.interface = .tendermintrpc)
    (named : Named method) {get post : RawRequest} (asks : GetForm site.host method params get)
    (posts : PostForm site.host method params post) (settled : Settled site method params) :
    FormsAgree site get post := by
  intro env scenario arrived
  obtain ⟨id, parses⟩ : ∃ id, (Tendermint.hooks site env).parseRequest post = _ := post_parses named posts
  rcases normalizeParams_object site params with ⟨-, read⟩ | ⟨unreadable, -⟩
  · rw [read] at parses
    have matched : Matched (Tendermint.hooks site env) AnyEffects ApartFromId scenario scenario
        (tmCall method (.object params) (.int env.nextId)) (tmCall method (.object (rereadAll site params)) id) get post :=
      ⟨rfl, fun _ _ => trivial, fun verdict => .ok (buildFault_twin verdict _ _ _ _),
        succeed_paired lava tm (tmPlan_congr settled.same)⟩
    have parsed : Paired AnyEffects (fun first second => ∃ one other, first = .parsed one ∧ second = .parsed other ∧
        Matched (Tendermint.hooks site env) AnyEffects ApartFromId scenario scenario one other get post) scenario
        ((Tendermint.hooks site env).parseRequest get) ((Tendermint.hooks site env).parseRequest post) := by
      rw [get_parses named asks, parses]
      exact ⟨.nil, .ok ⟨_, _, rfl, rfl, matched⟩⟩
    rw [serveAt_result tm, serveAt_result tm]
    exact (answer_paired (tendermint_fair site env) parsed).ended
  · exact absurd settled.readable unreadable

/-- Every call that parses gets a reply at the defaults. -/
theorem answer_tm_replies (lava : site.chain = .lava) (tm : site.endpoint.interface = .tendermintrpc) {id : Value}
    (parses : (Tendermint.hooks site env).parseRequest request =
      Flow.ofExcept (.ok (.parsed (tmCall method (.object params) id)))) :
    ∃ result, ((answer site (Tendermint.hooks site env) env request ScenarioField.default).outcomeAt
      ScenarioField.default).result = .ok result := by
  cases known : Stubs.tendermintMethodDefaults.get method with
  | some stub =>
      obtain ⟨result, -, replies⟩ := answer_tm_known lava tm known parses
      exact ⟨_, replies⟩
  | none =>
      have unknown : Chains.tableGet Stubs.tendermintMethodDefaults (.str method) = .ok none := congrArg Except.ok known
      have plan : tmPlan site.host env.head (.str method) (.object params) ScenarioField.default =
          .ok ⟨.int 200, true, .object [
            ("code", .int (-32601)), ("message", .str ("Unknown method: " ++ site.host.text (.str method)))]⟩ := by
        change Chains.Lava.computedPlan site.host env.head (.str method) (.object params) ScenarioField.default = _
        unfold Chains.Lava.computedPlan
        rw [unknown]
        rfl
      exact ⟨_, answer_tm_default lava tm parses plan rfl⟩

theorem settled_of_formsAgree (lava : site.chain = .lava) (tm : site.endpoint.interface = .tendermintrpc)
    (named : Named method) {get post : RawRequest} (asks : GetForm site.host method params get)
    (posts : PostForm site.host method params post) (agree : FormsAgree site get post) :
    Settled site method params := by
  -- The default scenario tells the forms apart, at some head.
  have ends : ∀ head : ℤ, Ended (Twin ApartFromId)
      ((answer site (Tendermint.hooks site { numberEnv with head }) { numberEnv with head } get
        ScenarioField.default).outcomeAt ScenarioField.default).result
      ((answer site (Tendermint.hooks site { numberEnv with head }) { numberEnv with head } post
        ScenarioField.default).outcomeAt ScenarioField.default).result := by
    intro head
    have here := agree { numberEnv with head } ScenarioField.default false
    rwa [serveAt_result tm, serveAt_result tm] at here
  rcases normalizeParams_object site params with ⟨readable, read⟩ | ⟨-, error, raised⟩
  · refine ⟨readable, ?_⟩
    cases known : Stubs.tendermintMethodDefaults.get method with
    | none => exact sameReads_unknown known _ _
    | some stub =>
        have results : ∀ head, Chains.Lava.tmResult site.host head (.int 0) (.object params) method stub =
            Chains.Lava.tmResult site.host head (.int 0) (.object (rereadAll site params)) method stub := by
          intro head
          have asked : (Tendermint.hooks site { numberEnv with head }).parseRequest get = _ := get_parses named asks
          obtain ⟨id, posted⟩ : ∃ id, (Tendermint.hooks site { numberEnv with head }).parseRequest post = _ :=
            post_parses named posts
          rw [read] at posted
          obtain ⟨first, firstResult, firstReply⟩ := answer_tm_known lava tm known asked
          obtain ⟨second, secondResult, secondReply⟩ := answer_tm_known lava tm known posted
          have twin := ends head
          rw [firstReply, secondReply, Ended.ok_ok_iff] at twin
          have same : first = second := result_of_apartFromId twin.bodies
          exact firstResult.trans ((congrArg Except.ok same).trans secondResult.symm)
        exact sameReads_of_tmResult results
  · obtain ⟨id, parses⟩ : ∃ id, (Tendermint.hooks site { numberEnv with head := 0 }).parseRequest post = _ :=
      post_parses named posts
    have asked : (Tendermint.hooks site { numberEnv with head := 0 }).parseRequest get = _ := get_parses named asks
    obtain ⟨result, replies⟩ := answer_tm_replies lava tm asked
    have apart := ends 0
    rw [replies, answer_default, parses, raised] at apart
    cases apart

/-- **The two forms of a call agree if and only if its parameters are settled**: under every scenario, at every head and
count they raise the same or get the same reply apart from the request id. -/
theorem forms_agree_iff (lava : site.chain = .lava) (tm : site.endpoint.interface = .tendermintrpc)
    (named : Named method) {get post : RawRequest} (asks : GetForm site.host method params get)
    (posts : PostForm site.host method params post) :
    FormsAgree site get post ↔ Settled site method params :=
  ⟨settled_of_formsAgree lava tm named asks posts, formsAgree_of_settled lava tm named asks posts⟩

end

/-! ### Two calls of `block` -/

/-- The body of a POST of `block`, with a JSON text for its height. -/
def blockBody (height : String) : Bytes :=
  ("\x7b\"method\": \"block\", \"params\": \x7b\"height\": " ++ height ++ "\x7d\x7d").toList.map fun char =>
    UInt8.ofNat char.toNat

/-- A host that reads the height 5, the list of it, and the two bodies with them. -/
def heightHost : Host where
  __ := numberHost
  loadsText text :=
    if text = "5" then .ok (.int 5)
    else if text = "[5]" then .ok (.list [.int 5])
    else .error (.badJson "Expecting value" 1 1)
  loads body :=
    if body = blockBody "5" then .ok (.object [("method", .str "block"), ("params", .object [("height", .int 5)])])
    else if body = blockBody "[5]" then
      .ok (.object [("method", .str "block"), ("params", .object [("height", .list [.int 5])])])
    else .error (.badJson "Expecting value" 1 1)

/-- The Tendermint endpoint of a Lava provider. -/
def heightSite : Site where
  host := heightHost
  reader := numberSite.reader
  chain := .lava
  endpoint := { Control.soloEndpoint with interface := .tendermintrpc }

/-- `GET /block?height=…`. -/
def blockGet (height : String) : RawRequest where
  verb := "GET"
  path := "/block"
  query := .object [("height", .list [.str height])]

/-- `POST` with the same height. -/
def blockPost (height : String) : RawRequest where
  verb := "POST"
  body := blockBody height

theorem block_named : Named "block" := ⟨by decide, by decide, by decide⟩

theorem blockGet_form {height : String} {value : Value} (reads : heightHost.loadsText height = .ok value) :
    GetForm heightHost "block" [("height", value)] (blockGet height) := by
  have verb : "GET".toUpper = "GET" := by decide +kernel
  exact ⟨verb, rfl, [("height", height)], rfl, .cons ⟨rfl, reads⟩ .nil⟩

theorem blockPost_form {height : String} {value : Value}
    (loads : heightHost.loads (blockBody height) =
      .ok (.object [("method", .str "block"), ("params", .object [("height", value)])])) :
    PostForm heightHost "block" [("height", value)] (blockPost height) := by
  have verb : "POST".toUpper = "POST" := by decide +kernel
  have given : blockBody height ≠ [] := by simp [blockBody]
  exact ⟨verb, given, _, loads, rfl, rfl⟩

/-- The forms of `block` at the height 5 agree. -/
theorem five_agrees :
    Settled heightSite "block" [("height", .int 5)] ∧ FormsAgree heightSite (blockGet "5") (blockPost "5") := by
  have settled : Settled heightSite "block" [("height", .int 5)] := by
    constructor
    · intro param member
      rw [List.mem_singleton.mp member]
      exact ⟨_, rfl⟩
    · exact ⟨Iff.rfl, rfl⟩
  have posts : PostForm heightHost "block" [("height", .int 5)] (blockPost "5") := by
    refine blockPost_form ?_
    simp only [heightHost, if_true]
  exact ⟨settled, (forms_agree_iff rfl rfl block_named (blockGet_form rfl) posts).mpr settled⟩

/-- The list of the height 5 is no height in a GET, and is 5 in a POST. -/
theorem list_disagrees :
    GetForm heightHost "block" [("height", .list [.int 5])] (blockGet "[5]") ∧
      PostForm heightHost "block" [("height", .list [.int 5])] (blockPost "[5]") ∧
      ¬ FormsAgree heightSite (blockGet "[5]") (blockPost "[5]") := by
  have asks : GetForm heightHost "block" [("height", .list [.int 5])] (blockGet "[5]") := blockGet_form rfl
  have posts : PostForm heightHost "block" [("height", .list [.int 5])] (blockPost "[5]") := by
    have other : blockBody "[5]" ≠ blockBody "5" := by decide
    refine blockPost_form ?_
    simp only [heightHost, if_neg other, if_true]
  refine ⟨asks, posts, fun agree => ?_⟩
  have settled : Settled heightSite "block" [("height", .list [.int 5])] :=
    settled_of_formsAgree rfl rfl block_named asks posts agree
  have same : (some 0 : Option ℤ) = some 5 := settled.same.2
  cases same

end ProviderSimulator.Listeners
