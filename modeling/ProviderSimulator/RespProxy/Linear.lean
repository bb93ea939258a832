/-
**The control calls of a proxy, in one order.**

The gate and the latency are moved by control calls alone, each on its own thread and each in one block under the
lock. However the threads of the calls and of the connections interleave, each call takes effect at one moment between
its start and its return, and finds what the calls before that moment left.

* `Request.apply` — what a call does to the gate and to the latency;
* `effects` — the call that takes effect in a step, with the gate and the latency that it finds;
* `step_turns` — each step of the proxy is a turn of its register;
* `control_calls_linearize` — every run.
-/

import Mathlib.Tactic.Common
import ProviderSimulator.Lib.Linearized
import ProviderSimulator.RespProxy.CutOff

namespace ProviderSimulator.RespProxy

open ProviderSimulator.Lib

/-! ### What a call does -/

/-- The gate and the latency. -/
structure Setting where
  state : Gate
  latencyMs : ℕ
  deriving DecidableEq

/-- What a call does to them. -/
def Request.apply (request : Request) (setting : Setting) : Setting :=
  match request with
  | .cutOff kind => { setting with state := kind.gate }
  | .restore => { setting with state := .forwarding }
  | .setLatency latencyMs => { setting with latencyMs := latencyMs }
  | .resetCounters => setting
  | .read => setting

/-- Has the call had its block under `_lock`? -/
def CallPlace.past : CallPlace → Bool
  | .called => false
  | .holding => false
  | _ => true

/-- The gate and the latency of a proxy. -/
def Proxy.setting (proxy : Proxy) : Setting := ⟨proxy.shared.state, proxy.shared.latencyMs⟩

/-- The call takes effect in the next step of its thread. A call that holds `_transitions` first has its block in the
step after that one. -/
def Call.effects (id : ℕ) (setting : Setting) (call : Call) : List (Effect Request Setting) :=
  match call.place, call.request with
  | .called, .cutOff _ => []
  | .called, .restore => []
  | .called, _ => [⟨id, call.request, setting⟩]
  | .holding, _ => [⟨id, call.request, setting⟩]
  | _, _ => []

/-- The call that takes effect in a step, with what it finds. -/
def effects (proxy : Proxy) : Action → List (Effect Request Setting)
  | .control id =>
      match proxy.calls[id]? with
      | some call => call.effects id proxy.setting
      | none => []
  | _ => []

/-- The register of a proxy. -/
def Proxy.register (proxy : Proxy) : Register Request Setting :=
  ⟨proxy.setting, proxy.calls.map fun call => (call.request, call.place.past)⟩

/-! ### Steps -/

section

variable {proxy next : Proxy} {id : ℕ} {call : Call}

/-- A step that moves one call, and no other. -/
theorem register_set (here : proxy.calls[id]? = some call) {moved : Call} (calls : next.calls = proxy.calls.set id moved)
    (same : moved.request = call.request) (setting : next.setting = proxy.setting)
    (past : moved.place.past = call.place.past) : next.register = proxy.register := by
  unfold Proxy.register
  rw [setting, calls, List.map_set, same, past]
  have bound := (List.getElem?_eq_some_iff.mp here).1
  have value := (List.getElem?_eq_some_iff.mp here).2
  have inside : id < (proxy.calls.map fun call => (call.request, call.place.past)).length := by simpa using bound
  have before : (proxy.calls.map fun call => (call.request, call.place.past))[id] =
      (call.request, call.place.past) := by rw [List.getElem_map, value]
  rw [← before, List.set_getElem_self]

/-- A step in which the call takes effect. -/
theorem turn_take (here : proxy.calls[id]? = some call) {moved : Call} (calls : next.calls = proxy.calls.set id moved)
    (same : moved.request = call.request) (setting : next.setting = call.request.apply proxy.setting)
    (before : call.place.past = false) (past : moved.place.past = true) :
    Turn Request.apply proxy.register [⟨id, call.request, proxy.setting⟩] next.register := by
  have pending : proxy.register.calls[id]? = some (call.request, false) := by
    unfold Proxy.register
    rw [List.getElem?_map, here, ← before]
    rfl
  have reached : next.register =
      ⟨call.request.apply proxy.register.value, proxy.register.calls.set id (call.request, true)⟩ := by
    unfold Proxy.register
    rw [setting, calls, List.map_set, same, past]
  rw [reached]
  exact .take pending

/-- A wait of a cut-off for its deliveries moves its own call alone, past its block. -/
theorem waitForDeliveries_calls (proxy : Proxy) (id : ℕ) (kind : CutOffKind) (live : List ℕ) (wroteAt : Option ℕ) :
    ∃ moved : Call, (proxy.waitForDeliveries id kind live wroteAt).calls = proxy.calls.set id moved ∧
      moved.request = .cutOff kind ∧ moved.place.past = true := by
  unfold Proxy.waitForDeliveries Proxy.endLockedSection
  split
  · exact ⟨_, rfl, rfl, rfl⟩
  · exact ⟨_, rfl, rfl, rfl⟩

/-- **One step of a control call.** -/
theorem callStep_turns (here : proxy.calls[id]? = some call) (done : proxy.callStep id call = some next) :
    Turn Request.apply proxy.register (effects proxy (.control id)) next.register := by
  have noted : effects proxy (.control id) = call.effects id proxy.setting := by simp only [effects, here]
  rw [noted]
  obtain ⟨request, place, wroteAt, endedAt⟩ := call
  have quiet : ∀ {moved : Call}, next.calls = proxy.calls.set id moved → moved.request = request →
      next.setting = proxy.setting → moved.place.past = place.past →
      Turn Request.apply proxy.register [] next.register := by
    intro moved calls same setting past
    rw [register_set here calls same setting past]
    exact .quiet _
  cases callStep_takes done with
  | lockCutOff kind unlocked => exact quiet rfl rfl rfl rfl
  | lockRestore unlocked => exact quiet rfl rfl rfl rfl
  | setLatency latencyMs => exact turn_take here rfl rfl rfl rfl rfl
  | resetCounters => exact turn_take here rfl rfl rfl rfl rfl
  | read => exact turn_take here rfl rfl rfl rfl rfl
  | closeGate kind =>
      obtain ⟨moved, calls, same, past⟩ :=
        waitForDeliveries_calls (proxy.closeGate kind) id kind proxy.shared.live (some proxy.restores)
      refine turn_take here calls same ?_ rfl past
      unfold Proxy.setting
      rw [(waitForDeliveries_frame _ _ _ _ _).2]
      rfl
  | restore => exact turn_take here rfl rfl rfl rfl rfl
  | wait kind live =>
      obtain ⟨moved, calls, same, past⟩ := waitForDeliveries_calls proxy id kind live wroteAt
      refine quiet calls same ?_ past
      unfold Proxy.setting
      rw [(waitForDeliveries_frame _ _ _ _ _).2]
  | finish kind => exact quiet rfl rfl rfl rfl
  | shut kind socket rest =>
      refine quiet rfl rfl ?_ rfl
      show Setting.mk (proxy.shutSocket socket).shared.state (proxy.shutSocket socket).shared.latencyMs = _
      rw [(shutSocket_frame proxy socket).1]
      rfl

/-- A connection moves neither the gate nor the latency. -/
theorem connStep_setting {idleSeconds now : ℚ} {shared shared' : Shared} {conn conn' : Conn} {event : Event}
    (done : connStep idleSeconds now id shared conn event = some (shared', conn')) :
    shared'.state = shared.state ∧ shared'.latencyMs = shared.latencyMs := by
  obtain ⟨place, down, up, lastActive⟩ := conn
  cases connStep_takes done <;> exact ⟨rfl, rfl⟩

/-- **Each step of the proxy is a turn of its register.** -/
theorem step_turns (proxy : Proxy) (action : Action) (next : Proxy) (done : proxy.step action = some next) :
    Turn Request.apply proxy.register (effects proxy action) next.register := by
  cases action with
  | accept =>
      cases done
      exact .quiet _
  | conn id event =>
      obtain ⟨conn, here, moved⟩ := Option.bind_eq_some_iff.mp done
      obtain ⟨⟨shared', conn'⟩, result, rfl⟩ := Option.map_eq_some_iff.mp moved
      obtain ⟨state, latency⟩ := connStep_setting result
      unfold Proxy.register Proxy.setting
      dsimp only
      rw [state, latency]
      exact .quiet _
  | call asked =>
      simp only [Proxy.step] at done
      split at done
      · next request asks =>
          cases done
          unfold Proxy.register Proxy.setting
          rw [List.map_append]
          exact .call _ request
      · cases done
        exact .quiet _
  | control id =>
      obtain ⟨call, here, moved⟩ := Option.bind_eq_some_iff.mp done
      exact callStep_turns here moved
  | tick seconds =>
      simp only [Proxy.step] at done
      split at done
      · cases done
        exact .quiet _
      · cases done

end

/-! ### Every run -/

/-- **The control calls are linearizable.** In every run of a proxy there is one order of the calls that took effect,
each once, in which every call finds the gate and the latency that the calls before it left, and which gives the gate
and the latency at the end. A call that had returned at some moment is in it before every call that was made later. -/
theorem control_calls_linearize (idleSeconds : ℚ) (before later : List Action) (begun final : Proxy)
    (sofar history : List (Effect Request Setting))
    (ran : run (noted Proxy.step effects) (Proxy.new idleSeconds, []) before = some (begun, sofar))
    (done : run (noted Proxy.step effects) (begun, sofar) later = some (final, history)) :
    (Legal Request.apply ⟨.forwarding, 0⟩ history ∧
        final.setting = replay Request.apply ⟨.forwarding, 0⟩ history ∧ (history.map Effect.caller).Nodup) ∧
      (∀ id call, final.calls[id]? = some call →
        (call.place.past = true ↔ ∃ effect ∈ history, effect.caller = id ∧ effect.op = call.request)) ∧
      ∃ rest, history = sofar ++ rest ∧
        (∀ id call, begun.calls[id]? = some call → call.place.past = true → ∃ effect ∈ sofar, effect.caller = id) ∧
        ∀ effect ∈ sofar, effect.caller < begun.calls.length := by
  have started : Linearized Request.apply ⟨.forwarding, 0⟩ (Proxy.new idleSeconds).register [] :=
    linearized_start [] nofun
  have middle := run_linearized step_turns ran started
  have good := run_linearized step_turns done middle
  have shown : ∀ {proxy : Proxy} {id : ℕ} {call : Call}, proxy.calls[id]? = some call →
      proxy.register.calls[id]? = some (call.request, call.place.past) := by
    intro proxy id call here
    unfold Proxy.register
    rw [List.getElem?_map, here]
    rfl
  refine ⟨⟨good.legal, good.value, good.once⟩, fun id call here => ⟨fun past => ?_, ?_⟩, ?_⟩
  · have entry := shown here
    rw [past] at entry
    obtain ⟨effect, member, rfl⟩ := good.taken id _ entry
    have same := Option.some.inj (entry.symm.trans (good.known effect member))
    exact ⟨effect, member, rfl, (congrArg Prod.fst same).symm⟩
  · rintro ⟨effect, member, rfl, -⟩
    cases hpast : call.place.past with
    | true => rfl
    | false =>
        have entry := shown here
        rw [hpast] at entry
        have same := Option.some.inj (entry.symm.trans (good.known effect member))
        cases congrArg Prod.snd same
  · obtain ⟨rest, split⟩ := run_history done
    refine ⟨rest, split, fun id call here past => ?_, fun effect member => ?_⟩
    · have entry := shown here
      rw [past] at entry
      exact middle.taken id _ entry
    · have arrived := middle.arrived member
      unfold Proxy.register at arrived
      rwa [List.length_map] at arrived

/-- A cut-off and a restore that are made before either has its block, and a latency. -/
def overlapRun : List Action :=
  [.call (.cutOff "timeout"), .call .restore, .control 1, .control 1, .call (.setLatency 5), .control 0]

/-- The latency takes effect, and then the cut-off, which was made first. -/
def overlapRest : List Action := [.control 2, .control 0, .call .read, .control 3]

/-- The proxy and the history at the end of a run. -/
def linearAt (actions : List Action) : Proxy × List (Effect Request Setting) :=
  (run (noted Proxy.step effects) (Proxy.new 120, []) actions).getD (Proxy.new 120, [])

theorem control_calls_linearize_overlap :
    (linearAt (overlapRun ++ overlapRest)).1.setting =
        replay Request.apply ⟨.forwarding, 0⟩ (linearAt (overlapRun ++ overlapRest)).2 ∧
      (linearAt (overlapRun ++ overlapRest)).2 =
        [⟨1, .restore, ⟨.forwarding, 0⟩⟩, ⟨2, .setLatency 5, ⟨.forwarding, 0⟩⟩,
          ⟨0, .cutOff .timeout, ⟨.forwarding, 5⟩⟩, ⟨3, .read, ⟨.timeout, 5⟩⟩] := by
  have ran : run (noted Proxy.step effects) (Proxy.new 120, []) overlapRun = some (linearAt overlapRun) := by
    decide +kernel
  have done : run (noted Proxy.step effects) (linearAt overlapRun) overlapRest =
      some (linearAt (overlapRun ++ overlapRest)) := by
    decide +kernel
  refine ⟨(control_calls_linearize 120 overlapRun overlapRest _ _ _ _ ran done).1.2.1, ?_⟩
  decide +kernel

end ProviderSimulator.RespProxy
