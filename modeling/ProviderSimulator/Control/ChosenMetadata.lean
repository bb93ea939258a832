/-
**What a stored block says of its filters and of its chosen headers and trailers.**

A `ports` filter names ports of the provider, chosen reply headers have an endpoint that the block
targets, and chosen trailers have such an `http2` endpoint (`ChosenHolds`). A POST merges over the stored
block, so the headers may come in one call and the filter that moves them in a later one.

`ScenarioConfig` sees only the update, so it judges the shape of what is given; the rules of the control
API see the merged block, and leave each shape that they do not expect to `ScenarioConfig`. The two meet
in what a stored block is known to be (`Chosen`): each chosen field is null or an object, and each filter
null or a list. A `transports` that is null or a list is what a call of the run gives
(`TransportsListed`).

* `chosenMetadataNoEndpointCanSend_eq_ok` — what the rule leaves true of a merged block;
* `step_chosen` — one call, one reset or one sweep;
* `chosen_metadata_holds` — every run.
-/

import Mathlib.Tactic.Common
import ProviderSimulator.Control.StoredBlocks

namespace ProviderSimulator.Control

open ProviderSimulator.Lib ProviderSimulator.Python ProviderSimulator.Domain
open ProviderSimulator.FaultPolicy

/-! ### The promise -/

/-- What a stored block promises of its ports and of its chosen metadata. -/
structure ChosenHolds (endpoints : List Endpoint) (values : Scenario) : Prop where
  ports : ∀ ports, values .ports = .list ports →
    ∀ port ∈ ports, ∃ endpoint ∈ endpoints, port = .int endpoint.port
  headers : (values .replyHeaders).truthy = true →
    ∃ endpoint ∈ endpoints, targets values endpoint = .ok true
  trailers : (values .replyTrailers).truthy = true →
    ∃ endpoint ∈ endpoints, endpoint.transport = .http2 ∧ targets values endpoint = .ok true

/-- Null or a list. -/
def isFilterList (value : Value) : Bool := value.isNone || value.isList

/-- Each `transports` value of a call is null or a list. -/
def TransportsListed : WriteAction → Prop
  | .apply _ _ body => ∀ providers name entries value, providersOf body.value = .ok providers →
      Dict.get providers (.text name) = some (.dict entries) →
      Dict.get entries (.text "transports") = some value → isFilterList value = true
  | .reset _ => True
  | .sweep _ _ _ => True

/-- Null or an object. -/
def isChosen (value : Value) : Bool := value.isNone || value.isDict

/-- The promise, with the shapes that it rests on. -/
structure Chosen (endpoints : List Endpoint) (values : Scenario) : Prop where
  holds : ChosenHolds endpoints values
  listed : isFilterList (values .transports) = true
  headers : isChosen (values .replyHeaders) = true
  trailers : isChosen (values .replyTrailers) = true

theorem Chosen.default (endpoints : List Endpoint) :
    Chosen endpoints ScenarioConfig.default.values :=
  ⟨⟨nofun, nofun, nofun⟩, rfl, rfl, rfl⟩

/-! ### The rules -/

section

variable {provider : Provider} {stored : Scenario} {updates : ScenarioUpdates}

/-- A `ports` filter that passes names ports of the provider. -/
theorem portsTheProviderDoesNotServe_eq_ok
    (passed : portsTheProviderDoesNotServe provider updates = .ok ()) {ports : List Value}
    (given : updates.given .ports = .list ports) :
    ∀ port ∈ ports, ∃ endpoint ∈ provider.endpoints, port.eqInt endpoint.port = true := by
  unfold portsTheProviderDoesNotServe at passed
  rw [given] at passed
  have none_unknown := refuseIf_eq_ok passed
  rw [Bool.not_eq_false', List.isEmpty_iff, List.filter_eq_nil_iff] at none_unknown
  intro port member
  have known := none_unknown port member
  rw [Bool.not_eq_true', Bool.not_eq_false, List.any_eq_true] at known
  obtain ⟨served, inServed, same⟩ := known
  obtain ⟨endpoint, inEndpoints, rfl⟩ := List.mem_map.mp inServed
  exact ⟨endpoint, inEndpoints, same⟩

/-- The ports of a filter that passes are integers. -/
theorem validatePorts_ints (passed : validatePorts updates = .ok ()) {ports : List Value}
    (given : updates.given .ports = .list ports) : ∀ port ∈ ports, ∃ number, port = .int number := by
  unfold validatePorts at passed
  rw [given] at passed
  obtain ⟨_, -, later⟩ := bind_eq_ok passed
  have none_bad := refuseIf_eq_ok later
  rw [Bool.not_eq_false', List.isEmpty_iff, List.filter_eq_nil_iff] at none_bad
  intro port member
  have good := none_bad port member
  cases port with
  | int number => exact ⟨number, rfl⟩
  | _ => exact absurd rfl good

/-- A chosen field that passes is null or an object. -/
theorem validateChosen_eq_ok {field : ScenarioField} (passed : validateChosen updates field = .ok ()) :
    isChosen (updates.given field) = true := by
  unfold validateChosen at passed
  split at passed
  · next same => rw [same]; rfl
  · next same => rw [same]; rfl
  · cases passed

/-- A writer that is found is targeted. -/
theorem anyWriterTargeted_eq_true {field : ScenarioField} {effective : Scenario}
    {endpoints : List Endpoint} (found : anyWriterTargeted field effective endpoints = .ok true) :
    ∃ endpoint ∈ endpoints, writesChosen field endpoint = true ∧
      targets effective endpoint = .ok true := by
  induction endpoints with
  | nil => cases found
  | cons first rest ih =>
      have later : anyWriterTargeted field effective rest = .ok true →
          ∃ endpoint ∈ first :: rest, writesChosen field endpoint = true ∧
            targets effective endpoint = .ok true := by
        intro inRest
        obtain ⟨endpoint, member, holds⟩ := ih inRest
        exact ⟨endpoint, List.mem_cons_of_mem _ member, holds⟩
      unfold anyWriterTargeted at found
      split at found
      · next writes =>
          cases targeted : targets effective first with
          | error error =>
              rw [targeted] at found
              cases found
          | ok flag =>
              cases flag with
              | true => exact ⟨first, List.mem_cons_self, writes, targeted⟩
              | false =>
                  rw [targeted] at found
                  exact later found
      · exact later found

/-- **What the rule leaves true of a merged block.** -/
theorem chosenMetadataNoEndpointCanSend_eq_ok {field : ScenarioField}
    (passed : chosenMetadataNoEndpointCanSend provider stored updates field = .ok ())
    (shaped : isChosen (updates.over stored field) = true)
    (filters : aFilterScenarioConfigRefuses (updates.over stored) = false)
    (chosen : (updates.over stored field).truthy = true) :
    ∃ endpoint ∈ provider.endpoints, writesChosen field endpoint = true ∧
      targets (updates.over stored) endpoint = .ok true := by
  have object : (updates.over stored field).isDict = true := by
    generalize updates.over stored field = value at shaped chosen ⊢
    cases value with
    | dict entries => rfl
    | none => cases chosen
    | _ => cases shaped
  unfold chosenMetadataNoEndpointCanSend at passed
  simp only [chosen, object, filters, Bool.not_false, Bool.and_self, if_true] at passed
  obtain ⟨sent, read, later⟩ := bind_eq_ok passed
  have isSent : sent = true := by simpa using refuseIf_eq_ok later
  subst isSent
  exact anyWriterTargeted_eq_true (lift_eq_ok read)

end

/-! ### One step -/

theorem validate_chosen {updates : ScenarioUpdates} (passed : validate updates = .ok ()) :
    validateChosen updates .replyHeaders = .ok () ∧ validateChosen updates .replyTrailers = .ok () := by
  obtain ⟨_, -, afterTransports⟩ := bind_eq_ok passed
  obtain ⟨_, -, afterPorts⟩ := bind_eq_ok afterTransports
  obtain ⟨_, -, afterPause⟩ := bind_eq_ok afterPorts
  obtain ⟨_, -, afterStyle⟩ := bind_eq_ok afterPause
  obtain ⟨_, -, afterReply⟩ := bind_eq_ok afterStyle
  obtain ⟨_, headers, trailers⟩ := bind_eq_ok afterReply
  exact ⟨headers, trailers⟩

/-- A chosen field is null or an object, whether the update gives it or it was stored. -/
theorem isChosen_over {updates : ScenarioUpdates} {stored : Scenario} {field : ScenarioField}
    (passed : validateChosen updates field = .ok ()) (shaped : isChosen (stored field) = true) :
    isChosen (updates.over stored field) = true := by
  rcases updates.over_given stored field with new | old
  · rw [new]
    exact validateChosen_eq_ok passed
  · rw [old]
    exact shaped

/-- A filter that is null or a list is not odd. -/
theorem isOddFilter_of_list {value : Value} (listed : isFilterList value = true) :
    isOddFilter value = false := by
  cases value with
  | none => rfl
  | list items => rfl
  | _ => cases listed

/-- **A block that passed its checks keeps the promise.** -/
theorem Chosen.over {provider : Provider} {updates : ScenarioUpdates} {stored : Scenario}
    {gated : ℕ → Bool} (chosen : Chosen provider.endpoints stored)
    (rules : RulesPassed provider stored updates gated) (valid : validate updates = .ok ())
    (filters : StoredFilters (updates.over stored))
    (listed : isFilterList (updates.over stored .transports) = true) :
    Chosen provider.endpoints (updates.over stored) := by
  obtain ⟨validHeaders, validTrailers⟩ := validate_chosen valid
  have headers := isChosen_over validHeaders chosen.headers
  have trailers := isChosen_over validTrailers chosen.trailers
  have readable := aFilterScenarioConfigRefuses_of_stored filters (isOddFilter_of_list listed)
  refine ⟨⟨fun ports named => ?_, fun sent => ?_, fun sent => ?_⟩, listed, headers, trailers⟩
  · rcases updates.over_given stored .ports with new | old
    · rw [new] at named
      intro port member
      obtain ⟨endpoint, served, same⟩ :=
        portsTheProviderDoesNotServe_eq_ok rules.ports named port member
      obtain ⟨number, rfl⟩ := validatePorts_ints (validate_eq_ok valid).2 named port member
      refine ⟨endpoint, served, congrArg Value.int ?_⟩
      simpa [Value.eqInt] using same
    · rw [old] at named
      exact chosen.holds.ports ports named
  · obtain ⟨endpoint, served, -, targeted⟩ :=
      chosenMetadataNoEndpointCanSend_eq_ok rules.headers headers readable sent
    exact ⟨endpoint, served, targeted⟩
  · obtain ⟨endpoint, served, writes, targeted⟩ :=
      chosenMetadataNoEndpointCanSend_eq_ok rules.trailers trailers readable sent
    refine ⟨endpoint, served, ?_, targeted⟩
    simpa [writesChosen] using writes

/-- The promise and its shapes, for every provider. -/
def ChosenKept (layout : Layout) (state : Stored) : Prop :=
  ∀ pool pid provider, layout.registry.provider pool pid = .ok provider →
    Chosen provider.endpoints (state provider.key).scenario.values

/-- **One step keeps the promise.** -/
theorem step_chosen {layout : Layout} {state next : Stored} {action : WriteAction}
    (given : TransportsListed action) (stepped : writeStep layout state action = some next)
    (kept : ChosenKept layout state) : ChosenKept layout next := by
  intro pool pid provider served
  have left := writeStep_stored stepped provider.key
  generalize (next provider.key).scenario.values = values at left
  cases left with
  | same => exact kept pool pid provider served
  | default => exact Chosen.default _
  | @block settlePorts clock body providers entries staged config applied found here named passed
      values merges =>
      subst applied
      have sameProvider := passed.provider_eq served named
      subst sameProvider
      have before := kept pool pid staged.provider served
      have listed : isFilterList (config.values .transports) = true := by
        rw [merges .transports (by decide)]
        unfold merged
        cases value : Dict.get entries (.text ScenarioField.transports.name) with
        | none => exact before.listed
        | some value => exact given providers _ entries _ found here value
      have filters := config.stored
      rw [values] at listed filters ⊢
      exact before.over (blockRules_eq_ok passed.rules) passed.scenario filters listed

theorem initial_chosen (layout : Layout) : ChosenKept layout (initial layout) := by
  intro pool pid provider served
  rw [initial_values]
  exact Chosen.default _

/-! ### Every run -/

/-- **Ports filters and chosen metadata.** After every run of calls whose `transports` values are null or
a list, of resets and of sweeps, each stored block keeps its promise, whichever field came in which
call. -/
theorem chosen_metadata_holds (layout : Layout) (actions : List WriteAction) (final : Stored)
    (given : ∀ action ∈ actions, TransportsListed action)
    (done : run (writeStep layout) (initial layout) actions = some final) (pool pid : String)
    (provider : Provider) (served : layout.registry.provider pool pid = .ok provider) :
    ChosenHolds provider.endpoints (final provider.key).scenario.values := by
  have kept : ChosenKept layout final :=
    run_invariant_of_mem (ChosenKept layout) TransportsListed
      (fun _ _ _ listed stepped before => step_chosen listed stepped before) given done
      (initial_chosen layout)
  exact (kept pool pid provider served).holds

/-! ### Two calls -/

/-- A body with one block for the provider of `soloLayout`. -/
def soloBody (block : List (String × Value))
    (formed : (Value.object [("providers", .object [("eth-sim:1", .object block)])]).WellFormed) : Json :=
  ⟨.object [("providers", .object [("eth-sim:1", .object block)])], formed⟩

theorem soloBody_listed {block : List (String × Value)}
    (formed : (Value.object [("providers", .object [("eth-sim:1", .object block)])]).WellFormed)
    (listed : ∀ value, Dict.get (block.map fun item => (Key.text item.1, item.2)) (.text "transports") =
      some value → isFilterList value = true) (clock : ProviderKey → ℚ) :
    TransportsListed (.apply (fun _ => "") clock (soloBody block formed)) := by
  intro providers name entries value found here given
  cases found
  rw [Value.object, List.map_cons, List.map_nil, Dict.get_cons] at here
  split at here
  · cases here
    exact listed value given
  · cases here

/-- Chosen headers in one call, and both filters in the next one. -/
def chosenRun : List WriteAction :=
  [.apply (fun _ => "") (fun _ => 0)
      (soloBody [("reply_headers", .object [("x-tag", .str "1")])]
        (by simp [Value.object, Value.WellFormed, Value.WellFormedEntries])),
    .apply (fun _ => "") (fun _ => 0)
      (soloBody [("transports", .list [.str "http"]), ("ports", .list [.int 18545])]
        (by simp [Value.object, Value.WellFormed, Value.WellFormedEntries, Value.WellFormedItems]))]

/-- What that run leaves stored. -/
def chosenFinal : Stored :=
  (run (writeStep soloLayout) (initial soloLayout) chosenRun).getD (initial soloLayout)

/-- The headers of the first call are stored, and so is the filter of the second one. -/
theorem chosen_metadata_holds_two_calls :
    (((chosenFinal ⟨"eth-sim", "1"⟩).scenario.values .replyHeaders).truthy = true ∧
      ((chosenFinal ⟨"eth-sim", "1"⟩).scenario.values .ports).truthy = true) ∧
    ChosenHolds [soloEndpoint] (chosenFinal ⟨"eth-sim", "1"⟩).scenario.values := by
  refine ⟨by decide +kernel, ?_⟩
  refine chosen_metadata_holds soloLayout chosenRun chosenFinal (fun action member => ?_) rfl "eth-sim"
    "1" ⟨⟨"eth-sim", "1"⟩, .eth, [soloEndpoint]⟩ rfl
  rcases List.mem_cons.mp member with rfl | later
  · refine soloBody_listed _ (fun value found => ?_) _
    cases found
  · cases List.mem_singleton.mp later
    refine soloBody_listed _ (fun value found => ?_) _
    cases found
    rfl

end ProviderSimulator.Control
