/-
**The control listener of the stores.**

A request of the control listener names an action and a store, and is refused, or it makes one call of the proxy of
that store or of its reader. The proxies run meanwhile, each with its own threads, and a reset of the simulator calls
them too.

* `dispatchRespPost` and `dispatchRespGet` — what a request asks for, or the refusal with its text;
* `Family` — the proxies by their names, and `Family.step` — a request, a call of a reset, or a step of one proxy;
* `ordered_named` — a request reaches a store that it names, or the only one;
* `resp_control_traced` — **every gate and every latency** is what the requests for its store asked, in one order.
-/

import Mathlib.Tactic.Common
import ProviderSimulator.CacheSim.Model
import ProviderSimulator.Listeners.Interfaces
import ProviderSimulator.Python.Numerals
import ProviderSimulator.RespProxy.Linear
import ProviderSimulator.RespProxy.Phase

namespace ProviderSimulator.RespProxy

open ProviderSimulator.Lib ProviderSimulator.Python
open ProviderSimulator.Listeners.Tendermint (stripSlashes)

/-! ### Requests -/

/-- What `do_POST` makes of the body. The reader of the language may raise what the handler does not catch. -/
inductive PostBody
  | loaded (value : Value)
  | notJson (reason : String)
  | raised

/-- A request: its path, its query as `parse_qs` gives it, with the first value of each name, and its body. -/
structure RespRequest where
  path : String
  query : Dict String String
  body : PostBody

/-- Why a request is refused. -/
inductive RespRefusal
  | notJson (reason : String)
  | noObject (body : Value)
  | unknownPath
  | unknownStore (name : String) (stores : List String)
  | noStore
  | manyStores (stores : List String)
  | unknownPostAction (action : String)
  | unknownGetAction (action : String)
  | noKind
  | unknownKind (kind : Value)
  | noMs
  | badMs (raw : Value)
  | negativeMs (latencyMs : ℤ)

/-- The status of the answer. -/
def RespRefusal.status : RespRefusal → ℕ
  | .unknownPath | .unknownStore _ _ | .noStore | .manyStores _ | .unknownPostAction _ | .unknownGetAction _ => 404
  | _ => 400

/-- The text under `error`, where `repr` is the function of the language. -/
def RespRefusal.text (repr : Value → String) : RespRefusal → String
  | .notJson reason => "request body is not valid JSON: " ++ reason
  | .noObject body => "request body must be a JSON object, got " ++ body.typeName
  | .unknownPath => "unknown path"
  | .unknownStore name _ => "unknown RESP store " ++ repr (.str name)
  | .noStore => "no RESP store is running here"
  | .manyStores _ => "more than one RESP store is running, so ?store= is required"
  | .unknownPostAction action => "unknown RESP action " ++ repr (.str action)
  | .unknownGetAction action => "unknown RESP action " ++ repr (.str action)
  | .noKind => "cut-off needs a kind"
  | .unknownKind kind =>
      "unknown cut-off kind " ++ repr kind ++ "; expected one of timeout, error " ++
        "(use restore() to let traffic through again)"
  | .noMs => "latency needs an ms value"
  | .badMs raw => "ms must be a whole number of milliseconds, got " ++ repr raw
  | .negativeMs latencyMs => "latency must be zero or more, got " ++ toString latencyMs

/-- What a request asks for: a call of the proxy, or a call of the reader of the store. -/
inductive Order
  | call (asked : Asked)
  | flush (pattern : String)
  | keys (pattern : String)

/-- `_resp_action`. -/
def respAction (path : String) : String := stripSlashes (String.ofList (path.toList.drop "/resp/".length))

/-- `_resp_store_name`. -/
def respStoreName (known : List String) (query : Dict String String) : Except RespRefusal String :=
  match (query.get "store").filter fun name => name ≠ "" with
  | some named => if named ∈ known then .ok named else .error (.unknownStore named known)
  | none =>
      match known with
      | [only] => .ok only
      | [] => .error .noStore
      | _ => .error (.manyStores known)

/-- `cut_off`. -/
def respCutOff (body : List (Key × Value)) : Except RespRefusal Order :=
  match (Dict.get body (.text "kind")).getD .none with
  | .none => .error .noKind
  | .str kind =>
      match (Asked.cutOff kind).request with
      | .ok _ => .ok (.call (.cutOff kind))
      | .error _ => .error (.unknownKind (.str kind))
  | kind => .error (.unknownKind kind)

/-- `set_latency`. -/
def respLatency (host : Host) (body : List (Key × Value)) : Except RespRefusal Order :=
  match (Dict.get body (.text "ms")).getD .none with
  | .none => .error .noMs
  | raw =>
      match host.intOf raw with
      | .ok latencyMs =>
          match (Asked.setLatency latencyMs).request with
          | .ok _ => .ok (.call (.setLatency latencyMs))
          | .error _ => .error (.negativeMs latencyMs)
      | .error _ => .error (.badMs raw)

/-- `query.get("pattern", "*")`. -/
def patternOf (query : Dict String String) : String := (query.get "pattern").getD "*"

/-- `_dispatch_resp_post`, after the store is known. -/
def respPostAction (host : Host) (action : String) (body : List (Key × Value)) (query : Dict String String) :
    Except RespRefusal Order :=
  match action with
  | "cutoff" => respCutOff body
  | "restore" => .ok (.call .restore)
  | "flush" => .ok (.flush (patternOf query))
  | "counters/reset" => .ok (.call .resetCounters)
  | "latency" => respLatency host body
  | _ => .error (.unknownPostAction action)

/-- `do_POST` and `_dispatch_resp_post`: no answer where the handler raises. -/
def dispatchRespPost (host : Host) (known : List String) (request : RespRequest) :
    Option (Except RespRefusal (String × Order)) :=
  match request.body with
  | .raised => none
  | .notJson reason => some (.error (.notJson reason))
  | .loaded (.dict body) =>
      if "/resp/".toList.isPrefixOf request.path.toList then
        some do
          let name ← respStoreName known request.query
          let order ← respPostAction host (respAction request.path) body request.query
          return (name, order)
      else some (.error .unknownPath)
  | .loaded body => some (.error (.noObject body))

/-- `do_GET` and `_dispatch_resp_get`. The paths `/health` and `/resp` name no store and call no proxy. -/
def dispatchRespGet (known : List String) (path : String) (query : Dict String String) :
    Option (Except RespRefusal (String × Order)) :=
  if path = "/health" ∨ path = "/resp" then none
  else if "/resp/".toList.isPrefixOf path.toList then
    some do
      let name ← respStoreName known query
      match respAction path with
      | "keys" => return (name, .keys (patternOf query))
      | "state" => return (name, .call .read)
      | action => .error (.unknownGetAction action)
  else some (.error .unknownPath)

/-! ### The proxies -/

/-- The proxies by their names. -/
abbrev Family := Dict String Proxy

/-- `names`. -/
def Family.stores (family : Family) : List String := family.keys.mergeSort fun first second => decide (first ≤ second)

/-- The proxies that a simulator starts with. -/
def Family.new (idleSeconds : ℚ) (names : List String) : Family := names.map fun name => (name, Proxy.new idleSeconds)

/-- A request, a call that a reset of the simulator makes, or a step of one proxy. -/
inductive FamilyAction
  | post (request : RespRequest)
  | get (path : String) (query : Dict String String)
  /-- `restore_all`, for one proxy. -/
  | restored (name : String)
  /-- `clear_latency_all`, for one proxy. -/
  | cleared (name : String)
  | thread (name : String) (action : Action)

/-- The call that an accepted request makes of a proxy. -/
def callOf : Option (Except RespRefusal (String × Order)) → List (String × Asked)
  | some (.ok (name, .call asked)) => [(name, asked)]
  | _ => []

/-- The calls that an action makes: the store, and what its proxy is asked. -/
def ordered (host : Host) (known : List String) : FamilyAction → List (String × Asked)
  | .post request => callOf (dispatchRespPost host known request)
  | .get path query => callOf (dispatchRespGet known path query)
  | .restored name => if name ∈ known then [(name, .restore)] else []
  | .cleared name => if name ∈ known then [(name, .setLatency 0)] else []
  | .thread _ _ => []

/-- The call that a step of a proxy is the arrival of. -/
def Action.asked : Action → Option Asked
  | .call asked => some asked
  | _ => none

/-- One step of one proxy. -/
def Family.move (family : Family) (name : String) (action : Action) : Option Family :=
  (family.get name).bind fun proxy => (proxy.step action).map fun next => family.set name next

/-- The calls that an action makes, one after the other. -/
def Family.callAll (family : Family) : List (String × Asked) → Option Family
  | [] => some family
  | (name, asked) :: rest => (family.move name (.call asked)).bind fun next => next.callAll rest

/-- One step. A proxy is called by the requests and by the resets alone. -/
def Family.step (host : Host) (family : Family) (action : FamilyAction) : Option Family :=
  match action with
  | .thread _ (.call _) => none
  | .thread name action => family.move name action
  | action => family.callAll (ordered host family.stores action)

/-! ### What a request reaches -/

section

variable {host : Host} {known : List String} {name : String} {asked : Asked}

theorem respStoreName_known {query : Dict String String} (found : respStoreName known query = .ok name) :
    name ∈ known ∧ (query.get "store" = some name ∨ known = [name]) := by
  unfold respStoreName at found
  split at found
  · next named given =>
      split at found
      · next member =>
          cases found
          exact ⟨member, .inl (Option.filter_eq_some_iff.mp given).1⟩
      · cases found
  · split at found
    · cases found
      exact ⟨List.mem_singleton_self _, .inr rfl⟩
    · cases found
    · cases found

theorem respCutOff_accepted {body : List (Key × Value)} (taken : respCutOff body = .ok (.call asked)) :
    ∃ request, asked.request = .ok request := by
  unfold respCutOff at taken
  split at taken
  · cases taken
  · split at taken
    · next request accepted =>
        cases taken
        exact ⟨request, accepted⟩
    · cases taken
  · cases taken

theorem respLatency_accepted {body : List (Key × Value)} (taken : respLatency host body = .ok (.call asked)) :
    ∃ request, asked.request = .ok request := by
  unfold respLatency at taken
  split at taken
  · cases taken
  · split at taken
    · split at taken
      · next request accepted =>
          cases taken
          exact ⟨request, accepted⟩
      · cases taken
    · cases taken

theorem respPostAction_accepted {action : String} {body : List (Key × Value)} {query : Dict String String}
    (taken : respPostAction host action body query = .ok (.call asked)) : ∃ request, asked.request = .ok request := by
  unfold respPostAction at taken
  split at taken
  · exact respCutOff_accepted taken
  · cases taken
    exact ⟨_, rfl⟩
  · cases taken
  · cases taken
    exact ⟨_, rfl⟩
  · exact respLatency_accepted taken
  · cases taken

/-- **A request that is accepted reaches a running store: the one that it names, or the only one.** -/
theorem ordered_post {request : RespRequest} (made : (name, asked) ∈ ordered host known (.post request)) :
    (name ∈ known ∧ (request.query.get "store" = some name ∨ known = [name])) ∧
      ∃ accepted, asked.request = .ok accepted := by
  have taken : dispatchRespPost host known request = some (.ok (name, .call asked)) := by
    simp only [ordered] at made
    unfold callOf at made
    split at made
    · next taken =>
        cases List.mem_singleton.mp made
        exact taken
    · cases made
  unfold dispatchRespPost at taken
  split at taken
  · cases taken
  · cases taken
  · split at taken
    · next body inBody _ =>
        cases store : respStoreName known request.query with
        | error refusal =>
            rw [store] at taken
            cases taken
        | ok found =>
            cases acted : respPostAction host (respAction request.path) body request.query with
            | error refusal =>
                rw [store, acted] at taken
                cases taken
            | ok order =>
                rw [store, acted] at taken
                cases taken
                exact ⟨respStoreName_known store, respPostAction_accepted acted⟩
    · cases taken
  · cases taken

end

/-! ### Every run -/

/-- The calls of one proxy among those that were made. -/
def requestsFor (name : String) (orders : List (String × Asked)) : List Request :=
  orders.filterMap fun order => if order.1 = name then order.2.request.toOption else none

/-- What a run keeps of a proxy: its calls are the ones that were made of it, and they take effect one at a time. -/
structure Traced (orders : List (String × Asked)) (name : String) (proxy : Proxy) : Prop where
  calls : proxy.calls.map Call.request = requestsFor name orders
  linear : ∃ history, Linearized Request.apply ⟨.forwarding, 0⟩ proxy.register history

section

variable {host : Host} {family next : Family} {orders : List (String × Asked)}

/-- The requests of the calls of a proxy, in its register. -/
theorem register_ops (proxy : Proxy) : proxy.register.calls.map Prod.fst = proxy.calls.map Call.request := by
  unfold Proxy.register
  rw [List.map_map]
  rfl

/-- A turn that is no arrival keeps the requests, and an arrival adds its own. -/
theorem step_requests {proxy after : Proxy} {action : Action} (done : proxy.step action = some after) :
    after.calls.map Call.request =
      proxy.calls.map Call.request ++ (action.asked.bind fun asked => asked.request.toOption).toList := by
  cases action with
  | accept =>
      cases done
      exact (List.append_nil _).symm
  | conn id event =>
      obtain ⟨conn, here, moved⟩ := Option.bind_eq_some_iff.mp done
      obtain ⟨⟨shared', conn'⟩, result, rfl⟩ := Option.map_eq_some_iff.mp moved
      exact (List.append_nil _).symm
  | call asked =>
      simp only [Proxy.step] at done
      split at done
      · next request asks =>
          cases done
          rw [List.map_append]
          unfold Action.asked
          rw [Option.bind_some, asks]
          rfl
      · next refusal asks =>
          cases done
          unfold Action.asked
          rw [Option.bind_some, asks]
          exact (List.append_nil _).symm
  | control id =>
      obtain ⟨call, here, moved⟩ := Option.bind_eq_some_iff.mp done
      obtain ⟨after, calls, same, -⟩ := callStep_calls moved
      obtain ⟨bound, value⟩ := List.getElem?_eq_some_iff.mp here
      have inside : id < (proxy.calls.map Call.request).length := by simpa using bound
      have before : (proxy.calls.map Call.request)[id] = call.request := by rw [List.getElem_map, value]
      rw [calls, List.map_set, same, ← before, List.set_getElem_self]
      exact (List.append_nil _).symm
  | tick seconds =>
      simp only [Proxy.step] at done
      split at done
      · cases done
        exact (List.append_nil _).symm
      · cases done

/-- **One step of one proxy.** -/
theorem move_traced {name : String} {action : Action} (done : family.move name action = some next)
    (traced : ∀ other proxy, family.get other = some proxy → Traced orders other proxy) :
    next.keys = family.keys ∧ ∀ other proxy, next.get other = some proxy →
      Traced (orders ++ (action.asked.map fun asked => (name, asked)).toList) other proxy := by
  obtain ⟨proxy, here, stepped⟩ := Option.bind_eq_some_iff.mp done
  obtain ⟨after, moved, rfl⟩ := Option.map_eq_some_iff.mp stepped
  constructor
  · have member : name ∈ family.keys := by
      by_contra absent
      cases here.symm.trans ((Dict.get_eq_none_iff family name).mpr absent)
    rw [Dict.keys_set, if_pos member]
  · intro other found there
    rw [Dict.get_set] at there
    split at there
    · next same =>
        subst same
        cases there
        obtain ⟨calls, history, linear⟩ := traced _ proxy here
        refine ⟨?_, _, (step_turns proxy action after moved).linearized linear⟩
        rw [step_requests moved, calls]
        unfold requestsFor
        rw [List.filterMap_append]
        refine congrArg _ ?_
        cases action.asked with
        | none => rfl
        | some asked =>
            simp only [Option.bind_some, Option.map_some, Option.toList_some, List.filterMap_cons, if_pos]
            cases asked.request.toOption <;> rfl
    · next elsewhere =>
        obtain ⟨calls, linear⟩ := traced other found there
        refine ⟨?_, linear⟩
        rw [calls]
        unfold requestsFor
        rw [List.filterMap_append]
        cases action.asked with
        | none => exact (List.append_nil _).symm
        | some asked => simp [elsewhere]

/-- The calls of one action. -/
theorem callAll_traced {made : List (String × Asked)} (done : family.callAll made = some next)
    (traced : ∀ other proxy, family.get other = some proxy → Traced orders other proxy) :
    next.keys = family.keys ∧ ∀ other proxy, next.get other = some proxy → Traced (orders ++ made) other proxy := by
  induction made generalizing family orders with
  | nil =>
      cases done
      rw [List.append_nil]
      exact ⟨rfl, traced⟩
  | cons order rest ih =>
      obtain ⟨name, asked⟩ := order
      obtain ⟨middle, first, later⟩ := Option.bind_eq_some_iff.mp done
      obtain ⟨sameKeys, moved⟩ := move_traced first traced
      obtain ⟨keys, kept⟩ := ih later moved
      refine ⟨keys.trans sameKeys, ?_⟩
      rwa [List.append_assoc] at kept

/-- **One step of the proxies.** -/
theorem family_step_traced {action : FamilyAction} (done : family.step host action = some next)
    (traced : ∀ other proxy, family.get other = some proxy → Traced orders other proxy) :
    next.stores = family.stores ∧ ∀ other proxy, next.get other = some proxy →
      Traced (orders ++ ordered host family.stores action) other proxy := by
  have called : family.callAll (ordered host family.stores action) = some next →
      next.stores = family.stores ∧ ∀ other proxy, next.get other = some proxy →
        Traced (orders ++ ordered host family.stores action) other proxy := by
    intro made
    obtain ⟨keys, kept⟩ := callAll_traced made traced
    refine ⟨?_, kept⟩
    unfold Family.stores
    rw [keys]
  cases action with
  | thread name action =>
      have moved : action.asked = none ∧ family.move name action = some next := by
        cases action with
        | call asked => cases done
        | _ => exact ⟨rfl, done⟩
      obtain ⟨keys, kept⟩ := move_traced moved.2 traced
      rw [moved.1] at kept
      refine ⟨?_, kept⟩
      unfold Family.stores
      rw [keys]
  | _ => exact called done

/-- A run of the proxies. -/
theorem run_traced {actions : List FamilyAction} {final : Family} (done : run (Family.step host) family actions = some final)
    (traced : ∀ other proxy, family.get other = some proxy → Traced orders other proxy) :
    ∀ other proxy, final.get other = some proxy →
      Traced (orders ++ actions.flatMap (ordered host family.stores)) other proxy := by
  induction actions generalizing family orders with
  | nil =>
      cases done
      rw [List.flatMap_nil, List.append_nil]
      exact traced
  | cons action rest ih =>
      obtain ⟨next, first, later⟩ := run_cons_eq_some.mp done
      obtain ⟨stores, kept⟩ := family_step_traced first traced
      have reached := ih later kept
      rwa [stores, List.append_assoc, ← List.flatMap_cons] at reached

end

theorem new_traced {idleSeconds : ℚ} {names : List String} {name : String} {proxy : Proxy}
    (found : (Family.new idleSeconds names).get name = some proxy) : Traced [] name proxy := by
  have fresh : proxy = Proxy.new idleSeconds := by
    obtain ⟨other, -, same⟩ := List.mem_map.mp (Dict.get_mem found)
    cases same
    rfl
  rw [fresh]
  exact ⟨rfl, [], linearized_start [] nofun⟩

/-- **Every gate and every latency is what the requests for its store asked.** In every run of the proxies, with
requests, resets of the simulator and any steps of their threads, the calls that a proxy has had are those of the
accepted requests for its store and of the resets, in the order in which they came. Its gate and its latency are
given by those of its calls that have taken effect, each once, one after the other. An accepted request reaches a
running store, which it names or which is the only one. -/
theorem resp_control_traced (host : Host) (idleSeconds : ℚ) (names : List String) (actions : List FamilyAction)
    (final : Family) (done : run (Family.step host) (Family.new idleSeconds names) actions = some final) :
    let made := actions.flatMap (ordered host (Family.new idleSeconds names).stores)
    (∀ name proxy, final.get name = some proxy →
      proxy.calls.map Call.request = requestsFor name made ∧
        ∃ history : List (Effect Request Setting),
          proxy.setting = replay Request.apply ⟨.forwarding, 0⟩ history ∧
            Legal Request.apply ⟨.forwarding, 0⟩ history ∧ (history.map Effect.caller).Nodup ∧
            ∀ effect ∈ history, (requestsFor name made)[effect.caller]? = some effect.op) ∧
      ∀ request name asked, (name, asked) ∈ ordered host (Family.new idleSeconds names).stores (.post request) →
        name ∈ (Family.new idleSeconds names).stores ∧
          (request.query.get "store" = some name ∨ (Family.new idleSeconds names).stores = [name]) := by
  refine ⟨fun name proxy found => ?_, fun request name asked reached => (ordered_post reached).1⟩
  have fresh : ∀ other proxy, (Family.new idleSeconds names).get other = some proxy → Traced [] other proxy :=
    fun _ _ => new_traced
  have traced := run_traced done fresh name proxy found
  rw [List.nil_append] at traced
  obtain ⟨calls, history, linear⟩ := traced
  refine ⟨calls, history, linear.value, linear.legal, linear.once, fun effect member => ?_⟩
  have known := linear.known effect member
  rw [← calls, ← register_ops, List.getElem?_map, known]
  rfl

/-- A latency as a text, a cut-off of a kind that there is not, and one that there is, with the steps of its thread. -/
def stagedActions : List FamilyAction :=
  let post (path : String) (key : String) (value : Value) : FamilyAction :=
    .post ⟨path, [], .loaded (.dict [(.text key, value)])⟩
  [post "/resp/latency" "ms" (.str "5"), post "/resp/cutoff/" "kind" (.str "forwarding"),
    post "/resp/cutoff" "kind" (.str "timeout"), .thread "cache" (.control 1), .thread "cache" (.control 1),
    .thread "cache" (.control 0)]

/-- The proxies after them. -/
def stagedFamily : Family :=
  (run (Family.step asciiHost) (Family.new 120 ["cache"]) stagedActions).getD []

theorem resp_control_traced_staged :
    ∃ proxy, stagedFamily.get "cache" = some proxy ∧ proxy.setting = ⟨.timeout, 5⟩ ∧
      proxy.calls.map Call.request = [.setLatency 5, .cutOff .timeout] := by
  have done : run (Family.step asciiHost) (Family.new 120 ["cache"]) stagedActions = some stagedFamily := by
    decide +kernel
  have found : (stagedFamily.get "cache").isSome = true := by decide +kernel
  obtain ⟨proxy, here⟩ := Option.isSome_iff_exists.mp found
  obtain ⟨calls, -⟩ := (resp_control_traced asciiHost 120 ["cache"] stagedActions stagedFamily done).1 "cache" proxy here
  have set : (stagedFamily.get "cache").map Proxy.setting = some ⟨.timeout, 5⟩ := by decide +kernel
  rw [here] at set
  refine ⟨proxy, here, Option.some.inj set, calls.trans ?_⟩
  decide +kernel

end ProviderSimulator.RespProxy
