/-
**What `mode="port_closed"` keeps, over every run of the control writers.**

A stored `port_closed` has to close a port: it targets an endpoint, each endpoint that it targets has a
gate, and no field that acts on a request is set (`PortClosedHolds`). A POST merges over the stored
block, so the mode, the filters and the other fields may come in different calls.

`aPortClosedThatCannotHappen` reads the merged block and refuses what does not hold. But it lets through
a `transports` that is not a list, and leaves it to `ScenarioConfig`, which takes each value that it can
iterate over and finds only transports in: the empty text, the empty object, and an object whose keys
are transports (`isOddFilter`). So the promise is kept along a run whose calls give no such filter to a
block that is `port_closed` (`FiltersListed`), and `port_closed_by_nothing` breaks it.

* `aPortClosedThatCannotHappen_eq_ok` — what the rule leaves true of a merged block;
* `step_holds` — one call, one reset or one sweep;
* `port_closed_holds` — every run.
-/

import Mathlib.Tactic.Common
import ProviderSimulator.Lib.Machine
import ProviderSimulator.Control.AllOrNothing

namespace ProviderSimulator.Control

open ProviderSimulator.Lib ProviderSimulator.Python ProviderSimulator.Domain
open ProviderSimulator.FaultPolicy

/-! ### The writers as a machine -/

/-- What can write a scenario. -/
inductive WriteAction
  | apply (settlePorts : List Wish → String) (clock : ProviderKey → ℚ) (body : Json)
  | reset (pool : Value)
  | sweep (ttl now : ℚ) (clock : ProviderKey → ℚ)

/-- One writer at a time, since each one holds `port_lock`. -/
def writeStep (layout : Layout) (state : Stored) : WriteAction → Option Stored
  | .apply settlePorts clock body => some (applyScenario layout settlePorts clock state body).state
  | .reset pool => some (reset layout pool state)
  | .sweep ttl now clock => some (revertStaleScenarios layout ttl now clock state)

/-- The state after `build_registry`: every provider at its defaults. -/
def initial (layout : Layout) : Stored := fun key =>
  match layout.registry.provider key.pool key.pid with
  | .ok provider => ProviderState.fresh provider.chain
  | .error _ => ProviderState.fresh .btc

/-! ### What a step leaves stored -/

/-- A field of a block merged over what is stored. -/
def merged (stored : Scenario) (entries : List (Key × Value)) (field : ScenarioField) : Value :=
  (Dict.get entries (.text field.name)).getD (stored field)

/-- After a block, a field other than `responses` is the merged one. -/
theorem BlockWritten.merged_eq {chain : Chain} {entries : List (Key × Value)}
    {before after : ProviderState} (written : BlockWritten chain entries before after)
    {field : ScenarioField} (other : field ≠ .responses) :
    after.scenario.values field = merged before.scenario.values entries field := by
  have held := written.scenario field
  unfold merged
  cases given : Dict.get entries (.text field.name) with
  | none =>
      rw [given] at held
      exact held
  | some value =>
      rw [given] at held
      simp only [StoredForm, if_neg other] at held
      exact held

/-- Writing one provider after another keeps what each write keeps. -/
theorem writeEach_keeps {Holds : ProviderKey → ProviderState → Prop}
    {write : Provider → ProviderState → ProviderState}
    (keeps : ∀ provider old, Holds provider.key old → Holds provider.key (write provider old))
    (providers : List Provider) {state : Stored} (holds : ∀ key, Holds key (state key)) :
    ∀ key, Holds key (writeEach write providers state key) := by
  induction providers generalizing state with
  | nil => exact holds
  | cons provider rest ih =>
      refine ih fun key => ?_
      by_cases same : key = provider.key
      · subst same
        rw [Function.update_self]
        exact keeps provider _ (holds provider.key)
      · rw [Function.update_of_ne same]
        exact holds key

/-- The block is that of the provider under its key. -/
theorem Passed.provider_eq {layout : Layout} {state : Stored} {name : String}
    {entries : List (Key × Value)} {staged : Staged} {pool pid : String} {provider : Provider}
    (passed : Passed layout state name entries staged)
    (served : layout.registry.provider pool pid = .ok provider)
    (named : staged.provider.key = provider.key) : staged.provider = provider := by
  have looked := passed.served
  rw [named, Registry.provider_key served] at looked
  exact Except.ok.inj (looked.symm.trans served)

/-- What a call, a reset or a sweep leaves stored for a provider is what was there, the defaults, or a
block of the call over what was there. -/
inductive LeftStored (layout : Layout) (state : Stored) (action : WriteAction) (key : ProviderKey) :
    Scenario → Prop
  | same : LeftStored layout state action key (state key).scenario.values
  | default : LeftStored layout state action key ScenarioConfig.default.values
  | block {settlePorts clock body providers entries staged} {config : ScenarioConfig} :
      action = .apply settlePorts clock body → providersOf body.value = .ok providers →
      Dict.get providers (.text key.text) = some (.dict entries) → staged.provider.key = key →
      Passed layout state key.text entries staged →
      config.values = staged.scenario.over (state key).scenario.values →
      (∀ field, field ≠ .responses →
        config.values field = merged (state key).scenario.values entries field) →
      LeftStored layout state action key config.values

/-- **What one step leaves stored.** -/
theorem writeStep_stored {layout : Layout} {state next : Stored} {action : WriteAction}
    (stepped : writeStep layout state action = some next) (key : ProviderKey) :
    LeftStored layout state action key (next key).scenario.values := by
  let Left : ProviderKey → ProviderState → Prop :=
    fun key old => LeftStored layout state action key old.scenario.values
  have start : ∀ key, Left key (state key) := fun _ => .same
  cases action with
  | apply settlePorts clock body =>
      cases stepped
      rcases applyScenario_cases layout settlePorts clock state body with
        ⟨-, same⟩ | ⟨-, providers, staged, found, formed, passed, written⟩
      · rw [same]
        exact .same
      · by_cases member : key ∈ staged.map fun block => block.provider.key
        · obtain ⟨block, inStaged, rfl⟩ := List.mem_map.mp member
          obtain ⟨item, inBlocks, entries, dict, here⟩ := passed.of_staged inStaged
          obtain ⟨config, values, after⟩ := written.blocks block inStaged
          have named := partitionKey_text here.named
          have given : Dict.get providers (.text block.provider.key.text) = some (.dict entries) := by
            rw [named, ← dict]
            exact Dict.get_of_mem formed (Value.mem_members.mp inBlocks)
          have blockWritten := here.written (clock block.provider.key) values
          rw [← named] at here
          rw [after]
          exact .block rfl found given rfl here values fun field other => blockWritten.merged_eq other
        · rw [written.others key member]
          exact .same
  | reset pool =>
      cases stepped
      unfold reset
      cases scope layout pool with
      | none => exact .same
      | some providers =>
          have keeps : ∀ provider old, Left provider.key old →
              Left provider.key (resetProvider provider old) := fun _ _ _ => .default
          exact writeEach_keeps keeps providers start key
  | sweep ttl now clock =>
      cases stepped
      have keeps : ∀ provider old, Left provider.key old →
          Left provider.key (revertStale ttl now clock provider old) := by
        intro provider old held
        unfold revertStale
        split
        · exact held
        · split
          · exact held
          · exact .default
      exact writeEach_keeps keeps _ start key

/-! ### The promise -/

/-- A block that is `port_closed` closes a port, and acts on no request. -/
structure PortClosedHolds (gated : ℕ → Bool) (endpoints : List Endpoint) (values : Scenario) : Prop where
  targeted : (values .mode).eqText "port_closed" = true →
    ∃ endpoint ∈ endpoints, targets values endpoint = .ok true
  gates : (values .mode).eqText "port_closed" = true →
    ∀ endpoint ∈ endpoints, targets values endpoint = .ok true → gated endpoint.port = true
  unset : (values .mode).eqText "port_closed" = true →
    ∀ row ∈ needsARequest, isUnset row.1 (values row.1) = true

/-- The promise for every provider. -/
def PortClosedKept (layout : Layout) (state : Stored) : Prop :=
  ∀ pool pid provider, layout.registry.provider pool pid = .ok provider →
    PortClosedHolds layout.gated provider.endpoints (state provider.key).scenario.values

/-- A `transports` that is no list and that `ScenarioConfig` accepts: the empty text, or an object whose
keys are transports. -/
def isOddFilter : Value → Bool
  | .str text => text = ""
  | .dict entries => entries.all fun entry => isTransport (Value.ofKey entry.1)
  | _ => false

/-- No block of the body that is `port_closed` once it is merged has an odd `transports`, merged as
well. -/
def FiltersListed (layout : Layout) (state : Stored) (body : Json) : Prop :=
  ∀ providers pool pid provider entries, providersOf body.value = .ok providers →
    layout.registry.provider pool pid = .ok provider →
    Dict.get providers (.text provider.key.text) = some (.dict entries) →
    (merged (state provider.key).scenario.values entries .mode).eqText "port_closed" = true →
    isOddFilter (merged (state provider.key).scenario.values entries .transports) = false

/-- The condition on a step: it is about the calls only. -/
def WriteMeets (layout : Layout) (state : Stored) : WriteAction → Prop
  | .apply _ _ body => FiltersListed layout state body
  | .reset _ => True
  | .sweep _ _ _ => True

/-! ### The rule -/

/-- The endpoints that are found are those that the block targets. -/
theorem mem_targetedEndpoints {effective : Scenario} {endpoints found : List Endpoint}
    (read : targetedEndpoints effective endpoints = .ok found) (endpoint : Endpoint) :
    endpoint ∈ found ↔ endpoint ∈ endpoints ∧ targets effective endpoint = .ok true := by
  induction endpoints generalizing found with
  | nil =>
      cases read
      simp
  | cons first rest ih =>
      unfold targetedEndpoints at read
      cases targeted : targets effective first with
      | error error =>
          rw [targeted] at read
          cases read
      | ok flag =>
          cases others : targetedEndpoints effective rest with
          | error error =>
              rw [targeted, others] at read
              cases read
          | ok list =>
              rw [targeted, others] at read
              cases read
              have later := ih others
              rw [List.mem_cons]
              cases flag with
              | true =>
                  rw [if_pos rfl, List.mem_cons, later]
                  constructor
                  · rintro (rfl | ⟨inRest, also⟩)
                    · exact ⟨.inl rfl, targeted⟩
                    · exact ⟨.inr inRest, also⟩
                  · rintro ⟨rfl | inRest, also⟩
                    · exact .inl rfl
                    · exact .inr ⟨inRest, also⟩
              | false =>
                  rw [if_neg (by simp), later]
                  constructor
                  · rintro ⟨inRest, also⟩
                    exact ⟨.inr inRest, also⟩
                  · rintro ⟨rfl | inRest, also⟩
                    · rw [targeted] at also
                      cases also
                    · exact ⟨inRest, also⟩

theorem aRequestFaultWithPortClosed_eq_ok {effective : Scenario} {fields : List ScenarioField}
    (passed : aRequestFaultWithPortClosed effective fields = .ok ()) :
    ∀ field ∈ fields, isUnset field (effective field) = true := by
  induction fields with
  | nil =>
      intro field member
      cases member
  | cons first rest ih =>
      obtain ⟨_, here, later⟩ := bind_eq_ok passed
      intro field member
      rcases List.mem_cons.mp member with rfl | inRest
      · simpa using refuseIf_eq_ok here
      · exact ih later field inRest

/-- **What the rule leaves true of a merged block whose filters are lists.** -/
theorem aPortClosedThatCannotHappen_eq_ok {provider : Provider} {stored : Scenario}
    {updates : ScenarioUpdates} {gated : ℕ → Bool}
    (passed : aPortClosedThatCannotHappen provider stored updates gated = .ok ())
    (listed : (updates.over stored .mode).eqText "port_closed" = true →
      aFilterScenarioConfigRefuses (updates.over stored) = false) :
    PortClosedHolds gated provider.endpoints (updates.over stored) := by
  by_cases closed : (updates.over stored .mode).eqText "port_closed" = true
  · have filters := listed closed
    unfold aPortClosedThatCannotHappen at passed
    simp only [closed, filters, Bool.not_false, Bool.and_self, if_true] at passed
    obtain ⟨found, read, afterRead⟩ := bind_eq_ok passed
    obtain ⟨_, some_targeted, afterTargeted⟩ := bind_eq_ok afterRead
    obtain ⟨_, all_gated, requests⟩ := bind_eq_ok afterTargeted
    have mem := mem_targetedEndpoints (lift_eq_ok read)
    refine ⟨fun _ => ?_, fun _ endpoint served targeted => ?_, fun _ row member => ?_⟩
    · cases found with
      | nil => cases refuseIf_eq_ok some_targeted
      | cons endpoint rest => exact ⟨endpoint, (mem endpoint).mp List.mem_cons_self⟩
    · by_contra ungated
      have here : endpoint ∈ found := (mem endpoint).mpr ⟨served, targeted⟩
      have noListener : endpoint.port ∈ (found.map Endpoint.port).filter fun port => !gated port :=
        List.mem_filter.mpr ⟨List.mem_map.mpr ⟨endpoint, here, rfl⟩, by simpa using ungated⟩
      have empty := refuseIf_eq_ok all_gated
      simp only [Bool.not_eq_false', List.isEmpty_iff] at empty
      rw [empty] at noListener
      cases noListener
    · exact aRequestFaultWithPortClosed_eq_ok requests row.1 (List.mem_map.mpr ⟨row, member, rfl⟩)
  · exact ⟨fun here => absurd here closed, fun here => absurd here closed,
      fun here => absurd here closed⟩

/-- The rules of a block that passed, as far as they say something of what is stored. -/
structure RulesPassed (provider : Provider) (stored : Scenario) (updates : ScenarioUpdates)
    (gated : ℕ → Bool) : Prop where
  ports : portsTheProviderDoesNotServe provider updates = .ok ()
  headers : chosenMetadataNoEndpointCanSend provider stored updates .replyHeaders = .ok ()
  trailers : chosenMetadataNoEndpointCanSend provider stored updates .replyTrailers = .ok ()
  portClosed : aPortClosedThatCannotHappen provider stored updates gated = .ok ()

theorem blockRules_eq_ok {provider : Provider} {stored : Scenario} {updates : ScenarioUpdates}
    {gated : ℕ → Bool} (passed : blockRules provider stored updates gated = .ok ()) :
    RulesPassed provider stored updates gated := by
  obtain ⟨_, ports, afterPorts⟩ := bind_eq_ok passed
  obtain ⟨_, -, afterPause⟩ := bind_eq_ok afterPorts
  obtain ⟨_, headers, afterHeaders⟩ := bind_eq_ok afterPause
  obtain ⟨_, trailers, afterTrailers⟩ := bind_eq_ok afterHeaders
  obtain ⟨_, -, afterJson⟩ := bind_eq_ok afterTrailers
  obtain ⟨_, -, afterProto⟩ := bind_eq_ok afterJson
  obtain ⟨_, -, afterGraphql⟩ := bind_eq_ok afterProto
  obtain ⟨_, -, last⟩ := bind_eq_ok afterGraphql
  exact ⟨ports, headers, trailers, last⟩

/-! ### One step -/

/-- No character is a transport. -/
theorem isTransport_singleton (char : Char) : isTransport (.str (String.singleton char)) = false := by
  have other : ∀ word : String, word.toList.length ≠ 1 → String.singleton char ≠ word := by
    rintro word longer rfl
    exact longer (by simp)
  simp only [isTransport, transports, List.any_cons, List.any_nil, Value.eqText_str,
    decide_eq_false (other "http" (by decide)), decide_eq_false (other "http2" (by decide)),
    decide_eq_false (other "ws" (by decide)), Bool.or_self]

/-- A `transports` that is stored is null, a list or odd. -/
theorem stored_listed {values : Scenario} (stored : StoredFilters values)
    (even : isOddFilter (values .transports) = false) :
    (!(values .transports).isNone && !(values .transports).isList) = false := by
  rcases stored.transports with unset | ⟨items, iterated, all_transports⟩
  · rw [unset]
    rfl
  · cases value : values .transports with
    | list items => rfl
    | none => rfl
    | str text =>
        rw [value] at iterated even
        cases iterated
        -- A text that is not empty has a first character, which is no transport.
        cases chars : text.toList with
        | nil =>
            rw [String.toList_eq_nil_iff] at chars
            rw [chars] at even
            cases even
        | cons char rest =>
            have first := all_transports (.str (String.singleton char)) (by simp [chars])
            rw [isTransport_singleton] at first
            cases first
    | dict entries =>
        rw [value] at iterated even
        cases iterated
        have odd : isOddFilter (.dict entries) = true := by
          refine List.all_eq_true.mpr fun entry member => ?_
          exact all_transports _ (List.mem_map.mpr ⟨entry, member, rfl⟩)
        rw [odd] at even
        cases even
    | bool flag =>
        rw [value] at iterated
        cases iterated
    | int number =>
        rw [value] at iterated
        cases iterated
    | float number =>
        rw [value] at iterated
        cases iterated

/-- A stored block whose `transports` is not odd has no filter that the rule passes on. -/
theorem aFilterScenarioConfigRefuses_of_stored {values : Scenario} (stored : StoredFilters values)
    (even : isOddFilter (values .transports) = false) :
    aFilterScenarioConfigRefuses values = false := by
  unfold aFilterScenarioConfigRefuses
  rcases stored.ports with unset | ⟨first, rest, ports⟩
  · rw [stored_listed stored even, unset]
    rfl
  · rw [stored_listed stored even, ports]
    rfl

theorem PortClosedHolds.of_default (gated : ℕ → Bool) (endpoints : List Endpoint) :
    PortClosedHolds gated endpoints ScenarioConfig.default.values := by
  have open_mode : ¬ (ScenarioConfig.default.values .mode).eqText "port_closed" = true := by decide
  exact ⟨fun closed => absurd closed open_mode, fun closed => absurd closed open_mode,
    fun closed => absurd closed open_mode⟩

/-- **One step keeps the promise.** -/
theorem step_holds {layout : Layout} {state next : Stored} {action : WriteAction}
    (meets : WriteMeets layout state action) (stepped : writeStep layout state action = some next)
    (kept : PortClosedKept layout state) : PortClosedKept layout next := by
  intro pool pid provider served
  have left := writeStep_stored stepped provider.key
  generalize (next provider.key).scenario.values = values at left
  cases left with
  | same => exact kept pool pid provider served
  | default => exact PortClosedHolds.of_default _ _
  | block applied found given named passed values merges =>
      subst applied
      have sameProvider := passed.provider_eq served named
      subst sameProvider
      rw [values]
      refine aPortClosedThatCannotHappen_eq_ok (blockRules_eq_ok passed.rules).portClosed fun closed => ?_
      rw [← values] at closed ⊢
      rw [merges .mode (by decide)] at closed
      have listed := meets _ pool pid _ _ found served given closed
      rw [← merges .transports (by decide)] at listed
      exact aFilterScenarioConfigRefuses_of_stored (ScenarioConfig.stored _) listed

theorem initial_holds (layout : Layout) : PortClosedKept layout (initial layout) := by
  intro pool pid provider served
  rw [initial, Registry.provider_key served]
  simp only [served]
  exact PortClosedHolds.of_default _ _

/-! ### Every run -/

/-- **A stored `port_closed` closes a port, and acts on no request.** Along every run of calls, resets
and sweeps whose calls give no odd `transports` to a block that is `port_closed`. -/
theorem port_closed_holds (layout : Layout) (actions : List WriteAction) (final : Stored)
    (meets : MeetsAlong (writeStep layout) (WriteMeets layout) (initial layout) actions)
    (done : run (writeStep layout) (initial layout) actions = some final) :
    PortClosedKept layout final :=
  run_invariant_of_meets (PortClosedKept layout) (WriteMeets layout)
    (fun _ _ _ => step_holds) meets done (initial_holds layout)

/-! ### An empty text as a filter -/

/-- The one endpoint of the simulator below. -/
def soloEndpoint : Endpoint := ⟨.jsonrpc, .http, 18545⟩

/-- A simulator with one provider, whose port has a gate. -/
def soloLayout : Layout :=
  ⟨⟨[("eth-sim", ⟨.eth, [("1", [soloEndpoint])]⟩)], by decide⟩,
    [(18545, ⟨⟨"eth-sim", "1"⟩, soloEndpoint⟩)]⟩

/-- `{"mode": "port_closed"}` for that provider. -/
def closeBody : Json :=
  ⟨.object [("providers", .object [("eth-sim:1", .object [("mode", .str "port_closed")])])],
    by simp [Value.object, Value.WellFormed, Value.WellFormedEntries]⟩

/-- The same with `"transports": ""`. -/
def oddBody : Json :=
  ⟨.object [("providers", .object [("eth-sim:1",
      .object [("mode", .str "port_closed"), ("transports", .str "")])])],
    by simp [Value.object, Value.WellFormed, Value.WellFormedEntries]⟩

/-- The promise holds after a call that closes the port. -/
theorem port_closed_holds_closes :
    (∃ final, run (writeStep soloLayout) (initial soloLayout)
      [.apply (fun _ => "") (fun _ => 0) closeBody] = some final ∧
        (final ⟨"eth-sim", "1"⟩).scenario.values .mode = .str "port_closed") ∧
    ∀ final, run (writeStep soloLayout) (initial soloLayout)
      [.apply (fun _ => "") (fun _ => 0) closeBody] = some final → PortClosedKept soloLayout final := by
  refine ⟨⟨_, rfl, rfl⟩, fun final done => port_closed_holds soloLayout
    [.apply (fun _ => "") (fun _ => 0) closeBody] final ⟨?_, ?_⟩ done⟩
  · intro providers pool pid provider entries found served given closed
    cases found
    obtain ⟨-, rfl⟩ : provider.key.text = "eth-sim:1" ∧
        entries = [(.text "mode", .str "port_closed")] := by
      rw [Value.object, List.map_cons, List.map_nil, Dict.get_cons] at given
      split at given
      · next same =>
          cases given
          exact ⟨(Key.text.inj same).symm, rfl⟩
      · cases given
    -- The block does not name `transports`, and every provider starts with none.
    show isOddFilter ((initial soloLayout provider.key).scenario.values .transports) = false
    unfold initial
    split <;> rfl
  · exact fun _ _ => trivial

/-- **A `port_closed` that closes nothing.** `ScenarioConfig` accepts the empty text as a `transports`,
the rule leaves the filter to it, and the stored block targets no endpoint. -/
theorem port_closed_by_nothing :
    ¬ ∀ (actions : List WriteAction) (final : Stored),
      run (writeStep soloLayout) (initial soloLayout) actions = some final →
        PortClosedKept soloLayout final := by
  intro promise
  have kept := promise [.apply (fun _ => "") (fun _ => 0) oddBody] _ rfl
  obtain ⟨endpoint, member, targeted⟩ := (kept "eth-sim" "1" _ rfl).targeted rfl
  have solo : endpoint = soloEndpoint := List.mem_singleton.mp member
  subst solo
  cases targeted

end ProviderSimulator.Control
