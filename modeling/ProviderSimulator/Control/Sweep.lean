/-
**The sweep of stale scenarios.**

`_revert_stale_scenarios` resets each scenario that was last written more than the time-to-live ago, but for
those whose `mode` is `success`. A scenario with that mode may hold any other fault: a latency, a canned
reply, chosen headers.

* `revertStaleScenarios_apply` — the pass gives each provider what the sweep of one provider gives it;
* `sweep_reverts_iff` — the pass leaves every stale scenario at its defaults exactly when the stale scenarios
  in mode `success` are there already.
-/

import Mathlib.Tactic.Common
import Mathlib.Tactic.NormNum
import ProviderSimulator.Control.ApplyScenario

namespace ProviderSimulator.Control

open ProviderSimulator.Lib ProviderSimulator.Python ProviderSimulator.Domain

/-! ### One provider -/

section One

variable (ttl now : ℚ) (clock : ProviderKey → ℚ) (provider : Provider) (old : ProviderState)

/-- The scenario was last updated more than the time-to-live before now. -/
def Stale : Prop := ∃ written, old.lastWriteAt = some written ∧ ttl < now - written

/-- The scenario was updated within the time-to-live. -/
def Recent : Prop := ∃ written, old.lastWriteAt = some written ∧ now - written ≤ ttl

/-- The code's test for a scenario at its defaults. -/
def LooksDefault : Prop := (old.scenario.values .mode).eqText "success" = true

/-- A second pass at the same time changes nothing: a reset scenario is in mode `success`. -/
theorem revertStale_revertStale :
    revertStale ttl now clock provider (revertStale ttl now clock provider old) =
      revertStale ttl now clock provider old := by
  by_cases recent : now - old.lastWriteAt.getD (clock provider.key) ≤ ttl
  · have kept : revertStale ttl now clock provider old = old := if_pos recent
    rw [kept, kept]
  · by_cases success : (old.scenario.values .mode).eqText "success"
    · have kept : revertStale ttl now clock provider old = old := (if_neg recent).trans (if_pos success)
      rw [kept, kept]
    · have reset : revertStale ttl now clock provider old = old.resetScenario :=
        (if_neg recent).trans (if_neg success)
      rw [reset]
      exact (if_neg recent).trans (if_pos rfl)

variable {ttl now old}

theorem revertStale_of_recent (recent : Recent ttl now old) : revertStale ttl now clock provider old = old := by
  obtain ⟨written, stamp, age⟩ := recent
  refine if_pos ?_
  rw [stamp]
  exact age

/-- **A stale scenario ends at its defaults, unless its mode hides another value.** -/
theorem revertStale_of_stale (stale : Stale ttl now old) :
    (revertStale ttl now clock provider old).scenario = ScenarioConfig.default ↔
      (LooksDefault old → old.scenario = ScenarioConfig.default) := by
  obtain ⟨written, stamp, age⟩ := stale
  have old_enough : ¬ now - old.lastWriteAt.getD (clock provider.key) ≤ ttl := by
    rw [stamp]
    exact not_le.mpr age
  unfold revertStale
  rw [if_neg old_enough]
  by_cases success : (old.scenario.values .mode).eqText "success"
  · rw [if_pos success]
    exact ⟨fun reset _ => reset, fun same => same success⟩
  · rw [if_neg success]
    exact ⟨fun _ looks => absurd looks success, fun _ => rfl⟩

end One

/-! ### The pass -/

/-- A loop of writes leaves a provider whose write changes nothing. -/
theorem writeEach_of_fixed {write : ProviderKey → ProviderState → ProviderState} {key : ProviderKey}
    (providers : List Provider) {state : Stored} (fixed : write key (state key) = state key) :
    writeEach (fun provider => write provider.key) providers state key = state key := by
  induction providers generalizing state with
  | nil => rfl
  | cons provider providers ih =>
      have same : Function.update state provider.key (write provider.key (state provider.key)) key = state key := by
        by_cases here : key = provider.key
        · subst here
          rw [Function.update_self, fixed]
        · rw [Function.update_of_ne here]
      have later := ih (same.symm ▸ fixed)
      exact later.trans same

/-- A loop of writes that may be made twice gives each provider its write. -/
theorem writeEach_of_idempotent {write : ProviderKey → ProviderState → ProviderState}
    (twice : ∀ key old, write key (write key old) = write key old) {providers : List Provider}
    {provider : Provider} (member : provider ∈ providers) (state : Stored) :
    writeEach (fun provider => write provider.key) providers state provider.key =
      write provider.key (state provider.key) := by
  induction providers generalizing state with
  | nil => cases member
  | cons first providers ih =>
      by_cases here : provider.key = first.key
      · have written : Function.update state first.key (write first.key (state first.key)) provider.key =
            write provider.key (state provider.key) := by
          rw [here, Function.update_self]
        refine (writeEach_of_fixed providers ?_).trans written
        rw [written, twice]
      · have later : provider ∈ providers := by
          rcases List.mem_cons.mp member with same | later
          · exact absurd (congrArg Provider.key same) here
          · exact later
        refine (ih later _).trans ?_
        rw [Function.update_of_ne here]

/-- **The pass is the sweep of each provider.** -/
theorem revertStaleScenarios_apply (layout : Layout) (ttl now : ℚ) (clock : ProviderKey → ℚ) (state : Stored)
    {provider : Provider} (member : provider ∈ layout.registry.allProviders) :
    revertStaleScenarios layout ttl now clock state provider.key =
      revertStale ttl now clock provider (state provider.key) := by
  -- The sweep of a provider reads nothing of it but its key.
  let write : ProviderKey → ProviderState → ProviderState := fun key => revertStale ttl now clock ⟨key, .eth, []⟩
  have twice : ∀ key old, write key (write key old) = write key old := fun key =>
    revertStale_revertStale ttl now clock ⟨key, .eth, []⟩
  exact writeEach_of_idempotent twice member state

/-- What the pass is to do: each stale scenario goes back to its defaults, and each recent one stays. -/
def Reverts (layout : Layout) (ttl now : ℚ) (clock : ProviderKey → ℚ) (state : Stored) : Prop :=
  ∀ provider ∈ layout.registry.allProviders,
    let after := revertStaleScenarios layout ttl now clock state provider.key
    (Stale ttl now (state provider.key) → after.scenario = ScenarioConfig.default) ∧
      (Recent ttl now (state provider.key) → after.scenario = (state provider.key).scenario)

/-- **The sweep does its work exactly when no stale scenario in mode `success` holds another fault.** -/
theorem sweep_reverts_iff (layout : Layout) (ttl now : ℚ) (clock : ProviderKey → ℚ) (state : Stored) :
    Reverts layout ttl now clock state ↔
      ∀ provider ∈ layout.registry.allProviders, Stale ttl now (state provider.key) →
        LooksDefault (state provider.key) → (state provider.key).scenario = ScenarioConfig.default := by
  constructor
  · intro reverts provider member stale
    have reset := (reverts provider member).1 stale
    rw [revertStaleScenarios_apply layout ttl now clock state member] at reset
    exact (revertStale_of_stale clock provider stale).mp reset
  · intro plain provider member
    dsimp only
    rw [revertStaleScenarios_apply layout ttl now clock state member]
    refine ⟨fun stale => ?_, fun recent => ?_⟩
    · exact (revertStale_of_stale clock provider stale).mpr (plain provider member stale)
    · rw [revertStale_of_recent clock provider recent]

/-- One provider that answers each request half a second late, written at time 0. -/
def slowed : ProviderState :=
  { ProviderState.fresh .eth with
    scenario := ⟨Function.update ScenarioField.default .latencyMs (.int 500), ⟨.inl rfl, .inl rfl⟩⟩
    lastWriteAt := some 0 }

/-- A control API with one provider. -/
def oneProvider : Layout := ⟨⟨[("eth-sim", ⟨.eth, [("1", [])]⟩)], by decide⟩, []⟩

/-- An update of a new provider gives the slow scenario, and the sweep a day later finds it in mode `success`
and leaves it. -/
theorem slowed_survives :
    (∃ written, ScenarioConfig.default.update (Block.empty.set .latencyMs (.int 500)) = .ok written ∧
      written.values = slowed.scenario.values) ∧
    ¬ Reverts oneProvider 900 86400 (fun _ => 86400) fun _ => slowed := by
  constructor
  · have passed : validate (Block.empty.set .latencyMs (.int 500)) = .ok () := rfl
    obtain ⟨written, updated, values⟩ := ScenarioConfig.default.update_of_validate passed
    refine ⟨written, updated, values.trans ?_⟩
    funext field
    cases field <;> rfl
  · intro reverts
    have here : (⟨⟨"eth-sim", "1"⟩, .eth, []⟩ : Provider) ∈ oneProvider.registry.allProviders :=
      List.mem_singleton.mpr rfl
    have stale : Stale 900 86400 slowed := ⟨0, rfl, by norm_num⟩
    have reset := (reverts _ here).1 stale
    rw [revertStaleScenarios_apply oneProvider 900 86400 (fun _ => 86400) (fun _ => slowed) here] at reset
    have plain := (revertStale_of_stale (fun _ => 86400) _ stale).mp reset rfl
    have latency : Value.int 500 = Value.int 0 := congrFun (congrArg ScenarioConfig.values plain) .latencyMs
    cases latency

end ProviderSimulator.Control
