/-
**HEAD is GET without the bytes.**

A HEAD borrows the GET routes: it gets the plan of a GET of the same path, with the order to withhold the body, and the
`Content-Length` that it announces is the size of the body that a GET would get. One body names the verb that was sent,
the one of the 404 for a path with no route, and it is one byte longer for a HEAD.

* `restCall` — the parsed request, in which only the verb differs;
* `buildRest_verbs` — the contents of the chain differ in that 404 only;
* `rest_paired` — **the two runs**: plans that differ at most in that body, and rows that differ in the verb;
* `head_is_get_iff` — a HEAD announces what a GET does, under every scenario and at every head, if and only if the path
  has a GET route.
-/

import Mathlib.Tactic.Common
import ProviderSimulator.Listeners.TwoRequests
import ProviderSimulator.Listeners.Wire
import ProviderSimulator.Python.Numerals

namespace ProviderSimulator.Listeners

open ProviderSimulator.Lib ProviderSimulator.Python ProviderSimulator.Domain
open ProviderSimulator.Lib.Flow (Paired)
open ProviderSimulator.Chains (Parsed Content)
open ProviderSimulator.Chains.Lava (buildRest routeKey restStub)

/-! ### The requests -/

/-- A request with no body for a path, with the query that `parse_qs` gives. -/
def asking (path : String) (query : List (String × List String)) (headers : Dict String String) (verb : String) :
    RawRequest where
  verb := verb
  path := path
  headers := headers
  query := .object (query.map fun member => (member.1, .list (member.2.map .str)))

/-- The two verbs. -/
def IsVerb (verb : String) : Prop := verb = "GET" ∨ verb = "HEAD"

/-- The id that the caller chose, or the next one. -/
def requestIdOf (env : Env) (chosen : Option String) : Value :=
  match chosen with
  | some id => .str id
  | none => .int env.nextId

/-- The parsed request. -/
def restCall (path : String) (query requestId : Value) (verb : String) : Parsed where
  fields := [
    ("verb", .str verb), ("route_verb", .str "GET"),
    ("template", match Rest.findRoute "GET" path with
      | some (template, _) => .str template
      | none => .none),
    ("path", .str path),
    ("path_params", .object (match Rest.findRoute "GET" path with
      | some (_, params) => params
      | none => [])),
    ("query", query), ("body", .none), ("request_id", requestId)]

theorem IsVerb.upper {verb : String} (isVerb : IsVerb verb) : verb.toUpper = verb := by
  rcases isVerb with rfl | rfl
  · decide +kernel
  · decide +kernel

theorem IsVerb.routeVerb {verb : String} (isVerb : IsVerb verb) : Rest.routeVerb verb = "GET" := by
  rcases isVerb with rfl | rfl
  · rfl
  · rfl

/-- **The parsed requests** differ in the verb only. -/
theorem asking_parses (site : Site) (env : Env) (path : String) (query : List (String × List String))
    (headers : Dict String String) :
    ∃ requestId, ∀ verb, IsVerb verb → Rest.parseRequest site env (asking path query headers verb) =
      .ok (.parsed (restCall path (asking path query headers verb).query requestId verb)) := by
  have chosen : ∀ verb, Rest.callerRequestId site (asking path query headers verb) =
      Rest.callerRequestId site (asking path query headers "GET") := fun _ => rfl
  have read : ∃ id, Rest.callerRequestId site (asking path query headers "GET") = .ok id := by
    have found : ∃ id, Rest.queryRequestId site (asking path query headers "GET").query = .ok id := by
      unfold Rest.queryRequestId asking Value.orElse
      split
      · exact ⟨_, rfl⟩
      · exact ⟨_, rfl⟩
    obtain ⟨id, found⟩ := found
    unfold Rest.callerRequestId
    rw [found, ok_bind]
    cases id with
    | some id => exact ⟨_, rfl⟩
    | none => exact ⟨_, rfl⟩
  obtain ⟨id, read⟩ := read
  refine ⟨requestIdOf env id, fun verb isVerb => ?_⟩
  unfold Rest.parseRequest
  rw [chosen, read, ok_bind]
  dsimp only [asking]
  rw [isVerb.upper, isVerb.routeVerb]
  rfl

/-! ### What the chain makes of them -/

/-- The 404 of a path with no route. -/
def notFound (path verb : String) : Content where
  status := .int 404
  body := .object [
    ("code", .str "not_found"), ("method", .str verb), ("path", (Value.str path).orElse .none)]

theorem findRoute_restStub {path template : String} {params : Dict String Value}
    (found : Rest.findRoute "GET" path = some (template, params)) :
    ∃ stub, restStub (.str "GET", .str template) = some stub := by
  unfold Rest.findRoute at found
  obtain ⟨route, member, matched⟩ := List.exists_of_findSome?_eq_some found
  obtain ⟨listed, verb⟩ := List.mem_filter.mp member
  obtain ⟨row, stored, rfl⟩ := List.mem_map.mp listed
  obtain ⟨segments, -, same⟩ := Option.map_eq_some_iff.mp matched
  have key : row.1 = ("GET", template) := Prod.ext (of_decide_eq_true verb) (congrArg Prod.fst same)
  cases absent : restStub (.str "GET", .str template) with
  | some stub => exact ⟨stub, rfl⟩
  | none =>
      have missing : ("GET", template) ∉ Dict.keys Stubs.restMethodDefaults :=
        (Dict.get_eq_none_iff Stubs.restMethodDefaults ("GET", template)).mp absent
      exact absurd (key ▸ List.mem_map_of_mem stored) missing

theorem routeKey_restCall (path : String) (query requestId : Value) (verb : String) :
    routeKey (restCall path query requestId verb) = (.str "GET", match Rest.findRoute "GET" path with
      | some (template, _) => .str template
      | none => .none) := rfl

theorem successLabel_unrouted {path : String} (unrouted : Rest.findRoute "GET" path = none) (query requestId : Value)
    (verb : String) :
    Rest.successLabel (.int 404) (notFound path verb).body (restCall path query requestId verb) = .ok .notFound := by
  unfold Rest.successLabel restCall
  rw [unrouted]
  rfl

/-- The contents for a GET and for a HEAD are one, or the 404s of a path with no route. -/
def Mirrored (path : String) (first second : Content) : Prop :=
  second = first ∨
    Rest.findRoute "GET" path = none ∧ first = notFound path "GET" ∧ second = notFound path "HEAD"

/-- The reply of a route with no canned one. -/
def uncanned (host : Host) (request : Parsed) (scenario : Scenario) (head : ℤ) : Except PyError Content :=
  match restStub (routeKey request) with
  | none =>
      pure {
        status := .int 404
        body := .object [
          ("code", .str "not_found"), ("method", request.getD "verb" (.str "GET")),
          ("path", (request.get "path").orElse (routeKey request).2)] }
  | some stub => do
      let result ← Chains.Lava.restComputed host request head (scenario .blocksBehind) (routeKey request) stub
      pure { status := scenario .httpStatus, body := result }

theorem uncanned_verbs (host : Host) (path : String) (query requestId : Value) (scenario : Scenario) (head : ℤ) :
    Ended (Mirrored path) (uncanned host (restCall path query requestId "GET") scenario head)
      (uncanned host (restCall path query requestId "HEAD") scenario head) := by
  unfold uncanned
  rw [routeKey_restCall, routeKey_restCall]
  cases unrouted : Rest.findRoute "GET" path with
  | some matched =>
      obtain ⟨template, params⟩ := matched
      obtain ⟨stub, stored⟩ := findRoute_restStub unrouted
      dsimp only
      rw [stored]
      exact .refl (fun _ => .inl rfl) _
  | none => exact .ok (.inr ⟨unrouted, rfl, rfl⟩)

/-- **The verb that was sent shows in the 404 only.** -/
theorem buildRest_verbs (host : Host) (path : String) (query requestId : Value) (scenario : Scenario) (head : ℤ) :
    Ended (Mirrored path) (buildRest host (restCall path query requestId "GET") scenario head)
      (buildRest host (restCall path query requestId "HEAD") scenario head) := by
  have route : routeKey (restCall path query requestId "HEAD") = routeKey (restCall path query requestId "GET") := rfl
  unfold buildRest
  dsimp only
  rw [route]
  refine .bind (.refl (fun _ => rfl) _) fun entry _ same => ?_
  subst same
  refine .bind (.refl (fun _ => rfl) _) fun methodCfg _ same => ?_
  subst same
  split
  · refine .bind (.refl (fun _ => rfl) _) fun reply _ same => ?_
    subst same
    cases reply with
    | some content => exact .ok (.inl rfl)
    | none => exact uncanned_verbs host path query requestId scenario head
  · exact uncanned_verbs host path query requestId scenario head

/-! ### The two runs -/

/-- The bodies for a GET and for a HEAD are one, or those of the 404 of a path with no route. -/
def SameBody (path : String) (first second : Body) : Prop :=
  second = first ∨ Rest.findRoute "GET" path = none ∧ first = .value (notFound path "GET").body ∧
    second = .value (notFound path "HEAD").body

/-- What the two requests leave is the same, and a row has the verb. -/
def SameButVerb (first second : Effect) : Prop :=
  second = first ∨ ∃ shown label latency requestId, first = .finalize (.str ("GET " ++ shown)) label latency requestId ∧
    second = .finalize (.str ("HEAD " ++ shown)) label latency requestId

section

variable {site : Site} {env : Env} {scenario found : Scenario} {path : String} {query requestId : Value}
  {request request' : RawRequest}

theorem hooks_rest (rest : site.endpoint.interface = .rest) (env : Env) : hooks site env = Rest.hooks site env := by
  unfold hooks
  rw [rest]

theorem rest_fair (site : Site) (env : Env) (path : String) : Fair (Rest.hooks site env) SameButVerb (SameBody path) where
  refl _ := .inl rfl
  left _ := .inl rfl
  corrupt label scenario twin :=
    ⟨twin.change (fun result => (corrupt result label scenario).1) (fun _ => rfl) fun _ _ => rfl, rfl⟩

theorem requestMethod_verb (site : Site) (path : String) (query requestId : Value) :
    ∃ shown, ∀ verb, Rest.requestMethod site (restCall path query requestId verb) = .str (verb ++ " " ++ shown) :=
  let template := (restCall path query requestId "GET").get "template"
  ⟨site.host.text (if template.truthy then template else .str path), fun _ => rfl⟩

theorem restCall_row (site : Site) (path : String) (query requestId id : Value) :
    SameRow SameButVerb (Rest.requestMethod site (restCall path query requestId "GET"))
      (Rest.requestMethod site (restCall path query requestId "HEAD")) id id := by
  obtain ⟨shown, method⟩ := requestMethod_verb site path query requestId
  intro label latency
  rw [method, method]
  exact .inr ⟨shown, label, latency, id, rfl, rfl⟩

/-- The contents of the two requests, with one label. -/
theorem rest_succeed_paired (lava : site.chain = .lava) (rest : site.endpoint.interface = .rest) (latency : Value) :
    Paired SameButVerb (Decided.Twin SameButVerb (SameBody path)
        (Rest.requestMethod site (restCall path query requestId "GET"))
        (Rest.requestMethod site (restCall path query requestId "HEAD"))) found
      (succeed (Rest.hooks site env) scenario latency (restCall path query requestId "GET") request)
      (succeed (Rest.hooks site env) scenario latency (restCall path query requestId "HEAD") request') := by
  have contents : Paired SameButVerb (fun first second => ∃ one other : Content, Mirrored path one other ∧
      first = (one.status, one.body) ∧ second = (other.status, other.body)) found
      (buildContent site env (restCall path query requestId "GET") scenario request)
      (buildContent site env (restCall path query requestId "HEAD") scenario request') := by
    unfold buildContent chainContent Chains.buildSuccess
    rw [lava, rest]
    refine .bind ?_ fun one other mirrored => .done ⟨one, other, mirrored, rfl, rfl⟩
    refine .bind (.ofExcept (buildRest_verbs site.host path query requestId scenario env.head))
      fun one other mirrored => ?_
    refine .bind (.leaveAll ?_) fun _ _ _ => .done mirrored
    rcases mirrored with rfl | ⟨-, rfl, rfl⟩
    · exact List.forall₂_same.mpr fun effect _ => .inl rfl
    · exact .nil
  unfold succeed
  refine contents.bind ?_
  rintro first second ⟨one, other, mirrored, rfl, rfl⟩
  rcases mirrored with rfl | ⟨unrouted, rfl, rfl⟩
  · refine .bind (.refl (fun _ => .inl rfl) (fun _ => rfl) _) fun result _ same => ?_
    subst same
    refine .bind (.refl (fun _ => .inl rfl) (fun _ => rfl) _) fun label _ same => ?_
    subst same
    exact .done ⟨.refl (fun _ => .inl rfl) _, rfl, restCall_row site path query requestId _, rfl, rfl⟩
  · change Paired _ _ _ (Flow.ofExcept (Rest.successLabel (.int 404) (notFound path "GET").body
        (restCall path query requestId "GET")) >>= _)
      (Flow.ofExcept (Rest.successLabel (.int 404) (notFound path "HEAD").body
        (restCall path query requestId "HEAD")) >>= _)
    rw [successLabel_unrouted unrouted, successLabel_unrouted unrouted]
    exact .done ⟨⟨rfl, .inr ⟨unrouted, rfl, rfl⟩⟩, rfl, restCall_row site path query requestId _, rfl, rfl⟩

/-- The plan of a HEAD, made of one that sends its body. -/
def withheld (result : ServeResult) : ServeResult :=
  if result.action = .respond then { result with suppressBody := true } else result

/-- The plans of a GET and of a HEAD: the second one withholds a body that is the same, or names the verb. -/
def HeadOf (path : String) (get head : ServeResult) : Prop :=
  ∃ full, Twin (SameBody path) get full ∧ head = withheld full

theorem withholdBody_get (path : String) (query : List (String × List String)) (headers : Dict String String)
    (result : ServeResult) : Rest.withholdBody (asking path query headers "GET") result = result := by
  have other : ¬ (asking path query headers "GET").verb.toUpper = "HEAD" := by
    change ¬ "GET".toUpper = "HEAD"
    decide +kernel
  unfold Rest.withholdBody
  rw [if_neg fun both => other both.1]

theorem withholdBody_head (path : String) (query : List (String × List String)) (headers : Dict String String)
    (result : ServeResult) : Rest.withholdBody (asking path query headers "HEAD") result = withheld result := by
  have same : (asking path query headers "HEAD").verb.toUpper = "HEAD" := by
    change "HEAD".toUpper = "HEAD"
    decide +kernel
  unfold Rest.withholdBody withheld
  by_cases responds : result.action = .respond
  · rw [if_pos ⟨same, responds⟩, if_pos responds]
  · rw [if_neg fun both => responds both.2, if_neg responds]

/-- **The two runs**: one plan, apart from the body of the 404 and from its bytes, and one row, apart from the verb. -/
theorem rest_paired (lava : site.chain = .lava) (rest : site.endpoint.interface = .rest) (env : Env) (scenario : Scenario)
    (path : String) (query : List (String × List String)) (headers : Dict String String) (arrived : Bool) :
    Paired SameButVerb (HeadOf path) scenario (serveAt site env (asking path query headers "GET") arrived)
      (serveAt site env (asking path query headers "HEAD") arrived) := by
  obtain ⟨requestId, parses⟩ := asking_parses site env path query headers
  have get := parses "GET" (.inl rfl)
  have head := parses "HEAD" (.inr rfl)
  have matched : Matched (Rest.hooks site env) SameButVerb (SameBody path) scenario scenario
      (restCall path (asking path query headers "GET").query requestId "GET")
      (restCall path (asking path query headers "GET").query requestId "HEAD")
      (asking path query headers "GET") (asking path query headers "HEAD") :=
    ⟨rfl, restCall_row site path _ requestId _, fun verdict => .refl (Twin.refl fun _ => .inl rfl) _,
      rest_succeed_paired lava rest⟩
  have arrives : Paired SameButVerb Eq scenario
      (arrival (Rest.hooks site env) (asking path query headers "GET") arrived)
      (arrival (Rest.hooks site env) (asking path query headers "HEAD") arrived) := by
    have bodies : ∀ verb, IsVerb verb →
        (Rest.hooks site env).bodyForHistory (asking path query headers verb) = none := by
      intro verb isVerb
      exact if_pos (show verb.toUpper = "GET" ∨ verb.toUpper = "HEAD" by rw [isVerb.upper]; exact isVerb)
    unfold arrival
    rw [bodies "GET" (.inl rfl), bodies "HEAD" (.inr rfl)]
    exact .refl (fun _ => .inl rfl) (fun _ => rfl) _
  have served : Paired SameButVerb (Twin (SameBody path)) scenario
      (serve site (Rest.hooks site env) env (asking path query headers "GET") arrived)
      (serve site (Rest.hooks site env) env (asking path query headers "HEAD") arrived) := by
    refine serve_paired (rest_fair site env path) arrives ?_
    change Paired _ _ _ (Flow.ofExcept (Rest.parseRequest site env _)) (Flow.ofExcept (Rest.parseRequest site env _))
    rw [get, head]
    exact .done ⟨_, _, rfl, rfl, matched⟩
  unfold serveAt
  rw [hooks_rest rest]
  refine served.bind fun first second twin => ?_
  rw [if_pos rest, if_pos rest, withholdBody_get, withholdBody_head]
  exact .done ⟨second, twin, rfl⟩

/-! ### A path with no route -/

theorem buildRest_unrouted (host : Host) (unrouted : Rest.findRoute "GET" path = none) (query requestId : Value)
    (verb : String) (head : ℤ) :
    buildRest host (restCall path query requestId verb) ScenarioField.default head = .ok (notFound path verb) := by
  unfold buildRest
  dsimp only
  rw [routeKey_restCall, unrouted]
  rfl

/-- **The 404 at the defaults.** -/
theorem serveAt_unrouted (lava : site.chain = .lava) (rest : site.endpoint.interface = .rest)
    (unrouted : Rest.findRoute "GET" path = none) (env : Env) (query : List (String × List String))
    (headers : Dict String String) (arrived : Bool) {verb : String} (isVerb : IsVerb verb) :
    ((serveAt site env (asking path query headers verb) arrived).outcomeAt ScenarioField.default).result =
      .ok (Rest.withholdBody (asking path query headers verb) (respond (.int 404) (notFound path verb).body)) := by
  obtain ⟨requestId, parses⟩ := asking_parses site env path query headers
  have parsed := parses verb isVerb
  generalize (asking path query headers verb).query = asked at parsed
  have entry : methodCfg ScenarioField.default (Rest.methodKey (restCall path asked requestId verb)) = .ok [] := by
    have key : Rest.methodKey (restCall path asked requestId verb) = none := by
      unfold Rest.methodKey restCall
      rw [unrouted]
      rfl
    rw [key]
    rfl
  have content : ((buildContent site env (restCall path asked requestId verb) ScenarioField.default
      (asking path query headers verb)).outcomeAt ScenarioField.default).result =
      .ok (.int 404, (notFound path verb).body) := by
    unfold buildContent chainContent Chains.buildSuccess
    rw [lava, rest]
    change (((Flow.ofExcept (buildRest site.host (restCall path asked requestId verb) ScenarioField.default env.head) >>=
      _) >>= _ : Serving (Value × Value)).outcomeAt ScenarioField.default).result = _
    rw [buildRest_unrouted site.host unrouted]
    rfl
  have answers : ((answer site (Rest.hooks site env) env (asking path query headers verb)
      ScenarioField.default).outcomeAt ScenarioField.default).result =
      .ok (respond (.int 404) (notFound path verb).body) :=
    answer_default_reply (hooks_rest rest env) (congrArg Flow.ofExcept parsed) entry content rfl
      (successLabel_unrouted unrouted asked requestId verb)
  unfold serveAt
  rw [Flow.result_followedBy, serve_result, hooks_rest rest, answers, ok_bind, if_pos rest]
  rfl

/-- The text of the 404: the verb stands in the middle of it. -/
theorem dumps_notFound (host : Host) (path : String) :
    ∃ front back : String, ∀ verb, Wire.dumps host (notFound path verb).body =
      .ok (front ++ Wire.quote verb ++ back) := by
  have shown : ∃ text, Wire.dumps host ((Value.str path).orElse .none) = .ok text := by
    unfold Value.orElse
    split
    · exact ⟨Wire.quote path, by rw [Wire.dumps]⟩
    · exact ⟨"null", by rw [Wire.dumps]⟩
  obtain ⟨text, shown⟩ := shown
  refine ⟨"\x7b" ++ Wire.quote "code" ++ ": " ++ Wire.quote "not_found" ++ ", " ++ Wire.quote "method" ++ ": ",
    ", " ++ Wire.quote "path" ++ ": " ++ text ++ "\x7d", fun verb => ?_⟩
  simp only [notFound, Value.object, List.map_cons, List.map_nil, Wire.dumps, Wire.dumpsEntries, shown]
  change Except.ok ("\x7b" ++ ((Wire.quote "code" ++ ": " ++ Wire.quote "not_found") ++ ", " ++
    (Wire.quote "method" ++ ": " ++ Wire.quote verb) ++ ", " ++ (Wire.quote "path" ++ ": " ++ text)) ++ "\x7d") = _
  simp only [String.append_assoc]

/-- The length that a handler announces for a 404. -/
theorem announced_notFound (host : Host) (path : String) :
    ∃ rest : ℕ, ∀ verb, Wire.announcedFor (Wire.restHandler host) (respond (.int 404) (notFound path verb).body) =
      some (toString (rest + (Utf8.encode (Wire.quote verb)).length)) := by
  obtain ⟨front, back, text⟩ := dumps_notFound host path
  refine ⟨(Utf8.encode front).length + (Utf8.encode back).length, fun verb => ?_⟩
  have bytes : Wire.serialize host (.value (notFound path verb).body) .none .none true =
      .ok (Utf8.encode (front ++ Wire.quote verb ++ back), true) := by
    change (do
      let text ← Wire.dumps host (notFound path verb).body
      pure (Utf8.encode text, true) : Except PyError (Bytes × Bool)) = _
    rw [text]
    rfl
  have length : (Utf8.encode (front ++ Wire.quote verb ++ back)).length =
      (Utf8.encode front).length + (Utf8.encode back).length + (Utf8.encode (Wire.quote verb)).length := by
    rw [Utf8.encode_append, Utf8.encode_append, List.length_append, List.length_append]
    omega
  have performed : Wire.announcedFor (Wire.restHandler host) (respond (.int 404) (notFound path verb).body) =
      some (toString (Utf8.encode (front ++ Wire.quote verb ++ back)).length) :=
    Wire.announced_bytes rfl rfl rfl rfl bytes
  rw [performed, length]

/-- **A HEAD is a GET without the bytes**, in one environment and under one scenario: the rows differ in the verb, the
plans in the order to withhold the body, and both announce one length. -/
structure HeadIsGet (site : Site) (path : String) (query : List (String × List String)) (headers : Dict String String)
    (env : Env) (scenario : Scenario) (arrived : Bool) : Prop where
  rows : List.Forall₂ SameButVerb
    ((serveAt site env (asking path query headers "GET") arrived).outcomeAt scenario).effects
    ((serveAt site env (asking path query headers "HEAD") arrived).outcomeAt scenario).effects
  plans : Ended (fun get head => head = withheld get ∧
      Wire.announcedFor (Wire.restHandler site.host) head = Wire.announcedFor (Wire.restHandler site.host) get)
    ((serveAt site env (asking path query headers "GET") arrived).outcomeAt scenario).result
    ((serveAt site env (asking path query headers "HEAD") arrived).outcomeAt scenario).result

theorem announced_withheld (handler : Wire.Handler) (result : ServeResult) :
    Wire.announcedFor handler (withheld result) = Wire.announcedFor handler result := by
  unfold withheld
  split
  · exact Wire.announced_suppressBody handler result true
  · rfl

theorem headIsGet_routed (lava : site.chain = .lava) (rest : site.endpoint.interface = .rest)
    (routed : (Rest.findRoute "GET" path).isSome) (query : List (String × List String)) (headers : Dict String String)
    (env : Env) (scenario : Scenario) (arrived : Bool) : HeadIsGet site path query headers env scenario arrived := by
  have paired := rest_paired lava rest env scenario path query headers arrived
  refine ⟨paired.effects, paired.ended.mono ?_⟩
  rintro get head ⟨full, twin, rfl⟩
  have same : full = get := by
    rcases twin.bodies with body | ⟨unrouted, -⟩
    · rw [twin.frame, body]
    · rw [unrouted] at routed
      cases routed
  rw [same]
  exact ⟨rfl, announced_withheld _ get⟩

/-- The announced lengths of the two 404s. -/
theorem announced_apart (host : Host) (path : String) :
    Wire.announcedFor (Wire.restHandler host) (respond (.int 404) (notFound path "HEAD").body) ≠
      Wire.announcedFor (Wire.restHandler host) (respond (.int 404) (notFound path "GET").body) := by
  obtain ⟨rest, announced⟩ := announced_notFound host path
  have longer : (Utf8.encode (Wire.quote "HEAD")).length = (Utf8.encode (Wire.quote "GET")).length + 1 := by
    decide +kernel
  rw [announced, announced, longer]
  intro same
  have equal : ((rest + ((Utf8.encode (Wire.quote "GET")).length + 1) : ℕ) : ℤ) =
      ((rest + (Utf8.encode (Wire.quote "GET")).length : ℕ) : ℤ) := Host.toString_inj (Option.some.inj same)
  omega

theorem not_headIsGet_unrouted (lava : site.chain = .lava) (rest : site.endpoint.interface = .rest)
    (unrouted : Rest.findRoute "GET" path = none) (query : List (String × List String)) (headers : Dict String String)
    (env : Env) (arrived : Bool) : ¬ HeadIsGet site path query headers env ScenarioField.default arrived := by
  intro same
  have plans := same.plans
  rw [serveAt_unrouted lava rest unrouted env query headers arrived (.inl rfl),
    serveAt_unrouted lava rest unrouted env query headers arrived (.inr rfl), withholdBody_get, withholdBody_head,
    Ended.ok_ok_iff, announced_withheld] at plans
  exact announced_apart site.host path plans.2

/-- **A HEAD of a path is its GET without the bytes**, in every environment and under every scenario, if and only if the
path has a GET route. -/
theorem head_is_get_iff (lava : site.chain = .lava) (rest : site.endpoint.interface = .rest) (path : String)
    (query : List (String × List String)) (headers : Dict String String) :
    (∀ env scenario arrived, HeadIsGet site path query headers env scenario arrived) ↔
      (Rest.findRoute "GET" path).isSome := by
  constructor
  · intro all
    by_contra unrouted
    rw [Option.not_isSome_iff_eq_none] at unrouted
    exact not_headIsGet_unrouted lava rest unrouted query headers numberEnv false (all _ _ _)
  · exact fun routed env scenario arrived => headIsGet_routed lava rest routed query headers env scenario arrived

end

/-- A REST endpoint of a Lava provider. -/
def restSite : Site where
  host := numberHost
  reader := numberSite.reader
  chain := .lava
  endpoint := { Control.soloEndpoint with interface := .rest }

/-- The path of the latest block has a route. -/
theorem head_is_get_latest_block :
    HeadIsGet restSite "/cosmos/base/tendermint/v1beta1/blocks/latest" [] [] numberEnv ScenarioField.default false := by
  have routed : (Rest.findRoute "GET" "/cosmos/base/tendermint/v1beta1/blocks/latest").isSome := by decide +kernel
  exact (head_is_get_iff rfl rfl "/cosmos/base/tendermint/v1beta1/blocks/latest" [] []).mpr routed numberEnv
    ScenarioField.default false

/-- The 404 of an unknown path: a GET announces 55 bytes, and a HEAD 56. -/
theorem head_of_unknown_path :
    (∃ get head, ((serveAt restSite numberEnv (asking "/nope" [] [] "GET") false).outcomeAt
        ScenarioField.default).result = .ok get ∧
      ((serveAt restSite numberEnv (asking "/nope" [] [] "HEAD") false).outcomeAt ScenarioField.default).result = .ok head ∧
      Wire.announcedFor (Wire.restHandler restSite.host) get = some "55" ∧
      Wire.announcedFor (Wire.restHandler restSite.host) head = some "56") ∧
    ¬ HeadIsGet restSite "/nope" [] [] numberEnv ScenarioField.default false := by
  have unrouted : Rest.findRoute "GET" "/nope" = none := by decide +kernel
  refine ⟨⟨_, _, serveAt_unrouted rfl rfl unrouted numberEnv [] [] false (.inl rfl),
    serveAt_unrouted rfl rfl unrouted numberEnv [] [] false (.inr rfl), ?_, ?_⟩,
    not_headIsGet_unrouted rfl rfl unrouted [] [] numberEnv false⟩
  · rw [withholdBody_get]
    decide +kernel
  · rw [withholdBody_head, announced_withheld]
    decide +kernel

end ProviderSimulator.Listeners
