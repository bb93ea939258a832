/-
**The one place where fault decisions are made.**

* `targets` — does a scenario block apply to an endpoint? Both filters are joined with `and`, and the
  second one is read only when the first one matches.
* `portClosed` — does the block close the port of an endpoint?
* `windowActive` and `resolveMode` — the effective mode of a request. A targeted request under an active
  `fail_first_n` takes one count of the window, and `resolveMode` is given that count.
* `ladder` — the verdict of a mode. It rolls a number for `error_probability` when no earlier branch
  takes the mode, and is given that number.

A block holds values of any shape, so a comparison or an `in` can raise. A stored block never makes
`targets` raise (`targets_of_stored`).
-/

import Mathlib.Tactic.Common
import ProviderSimulator.Domain.Scenario

namespace ProviderSimulator.FaultPolicy

open ProviderSimulator.Lib ProviderSimulator.Python ProviderSimulator.Domain

/-! ### Filters -/

/-- `transports is None or endpoint.transport in transports`. -/
def transportTargeted (transports : Value) (endpoint : Endpoint) : Except PyError Bool :=
  match transports with
  | .none => .ok true
  | other => other.contains endpoint.transport.name

/-- `ports is None or endpoint.port in ports`. -/
def portTargeted (ports : Value) (endpoint : Endpoint) : Except PyError Bool :=
  match ports with
  | .none => .ok true
  | other => other.containsInt endpoint.port

/-- `targets`. -/
def targets (scenario : Scenario) (endpoint : Endpoint) : Except PyError Bool := do
  if ← transportTargeted (scenario .transports) endpoint then
    portTargeted (scenario .ports) endpoint
  else pure false

/-- `port_closed`. -/
def portClosed (scenario : Scenario) (endpoint : Endpoint) : Except PyError Bool :=
  if (scenario .mode).eqText "port_closed" then targets scenario endpoint else .ok false

/-! ### The effective mode -/

/-- Does the request take a count of the `fail_first_n` window? -/
def windowActive (scenario : Scenario) (endpoint : Endpoint) : Except PyError Bool := do
  let targeted ← targets scenario endpoint
  let positive ← (scenario .failFirstN).exceeds 0
  pure (positive && targeted)

/-- `resolve_mode`, where `count` is what `consume_fail` returned if the window is active. -/
def resolveMode (scenario : Scenario) (endpoint : Endpoint) (count : ℕ) :
    Except PyError (Bool × Value) := do
  let targeted ← targets scenario endpoint
  let active ← windowActive scenario endpoint
  let mode ←
    if active then do
      let past ← (scenario .failFirstN).lessThan count
      pure (if past then scenario .thenMode else scenario .mode)
    else pure (scenario .mode)
  if !targeted then pure (false, .str "success") else pure (true, mode)

/-! ### Verdicts -/

/-- `Verdict`, with the fields that its kind uses. -/
inductive Verdict
  | none
  | down
  | hang
  | drop (dropAt : Value)
  | rateLimit (body style : Value)
  | error (status code message body : Value)

/-- The modes that `ladder` answers before it rolls a number. -/
def ladderFixed : List String := ["down", "hang", "drop_connection", "rate_limit", "error"]

/-- Does `ladder` roll a number for the mode? -/
def ladderRolls (mode : Value) : Bool := !ladderFixed.any fun word => mode.eqText word

/-- The verdict of the `error` branch. -/
def errorVerdict (scenario : Scenario) : Verdict :=
  .error (scenario .httpStatus) (scenario .errorCode) (scenario .errorMessage) (scenario .errorBody)

/-- `ladder`, where `roll` is the number that it rolls. -/
def ladder (mode : Value) (scenario : Scenario) (roll : ℚ) : Except PyError Verdict :=
  if mode.eqText "down" then .ok .down
  else if mode.eqText "hang" then .ok .hang
  else if mode.eqText "drop_connection" then .ok (.drop (scenario .dropAt))
  else if mode.eqText "rate_limit" then
    .ok (.rateLimit (scenario .rateLimitBody) (scenario .rateLimitStyle))
  else if mode.eqText "error" then .ok (errorVerdict scenario)
  else do
    if ← (scenario .errorProbability).exceeds roll then pure (errorVerdict scenario) else pure .none

/-! ### Stored blocks -/

theorem contains_of_iterate {container : Value} {items : List Value} (text : String)
    (iterated : container.iterate = .ok items) : ∃ found, container.contains text = .ok found := by
  cases container <;> first | exact ⟨_, rfl⟩ | cases iterated

/-- **A stored block targets an endpoint or does not.** -/
theorem targets_of_stored {scenario : Scenario} (stored : StoredFilters scenario)
    (endpoint : Endpoint) : ∃ targeted, targets scenario endpoint = .ok targeted := by
  have transport : ∃ found, transportTargeted (scenario .transports) endpoint = .ok found := by
    rcases stored.transports with unset | ⟨items, iterated, -⟩
    · rw [unset]
      exact ⟨true, rfl⟩
    · unfold transportTargeted
      split
      · exact ⟨true, rfl⟩
      · exact contains_of_iterate _ iterated
  have port : ∃ found, portTargeted (scenario .ports) endpoint = .ok found := by
    rcases stored.ports with unset | ⟨first, rest, listed⟩
    · rw [unset]
      exact ⟨true, rfl⟩
    · rw [listed]
      exact ⟨_, rfl⟩
  obtain ⟨found, transportRead⟩ := transport
  obtain ⟨inPorts, portRead⟩ := port
  unfold targets
  rw [transportRead]
  cases found with
  | true => exact ⟨inPorts, portRead⟩
  | false => exact ⟨false, rfl⟩

theorem portClosed_of_stored {scenario : Scenario} (stored : StoredFilters scenario)
    (endpoint : Endpoint) : ∃ closed, portClosed scenario endpoint = .ok closed := by
  unfold portClosed
  split
  · exact targets_of_stored stored endpoint
  · exact ⟨false, rfl⟩

/-! ### The window -/

/-- Only a targeted request takes a count. -/
theorem targets_of_windowActive {scenario : Scenario} {endpoint : Endpoint}
    (active : windowActive scenario endpoint = .ok true) : targets scenario endpoint = .ok true := by
  unfold windowActive at active
  cases targeted : targets scenario endpoint with
  | error error =>
      rw [targeted] at active
      cases active
  | ok flag =>
      cases positive : (scenario .failFirstN).exceeds 0 with
      | error error =>
          rw [targeted, positive] at active
          cases active
      | ok more =>
          rw [targeted, positive] at active
          have both : (more && flag) = true := Except.ok.inj active
          rw [Bool.and_eq_true] at both
          rw [both.2]

/-- Only a positive `fail_first_n` has a window. -/
theorem positive_of_windowActive {scenario : Scenario} {endpoint : Endpoint} {limit : ℤ}
    (active : windowActive scenario endpoint = .ok true) (number : scenario .failFirstN = .int limit) :
    0 < limit := by
  unfold windowActive at active
  rw [targets_of_windowActive active, number] at active
  have both : (decide ((0 : ℚ) < limit) && true) = true := Except.ok.inj active
  rw [Bool.and_true, decide_eq_true_iff] at both
  exact_mod_cast both

/-- **The mode of a request that takes a count**: the first `fail_first_n` counts give `mode`, and the
later ones `then_mode`. -/
theorem resolveMode_of_windowActive {scenario : Scenario} {endpoint : Endpoint} {limit : ℤ}
    (active : windowActive scenario endpoint = .ok true) (number : scenario .failFirstN = .int limit)
    (count : ℕ) : resolveMode scenario endpoint count =
      .ok (true, if limit < count then scenario .thenMode else scenario .mode) := by
  have past : (scenario .failFirstN).lessThan count = .ok (decide (limit < (count : ℤ))) := by
    rw [number]
    simp only [Value.lessThan]
    norm_cast
  unfold resolveMode
  rw [targets_of_windowActive active, active, past]
  by_cases later : limit < (count : ℤ)
  · rw [decide_eq_true later, if_pos later]
    rfl
  · rw [decide_eq_false later, if_neg later]
    rfl

end ProviderSimulator.FaultPolicy
