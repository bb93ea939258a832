/-
**Providers that cannot be told apart.**

`scenario.reset` leaves the time of the last write as it is. Only the sweep reads that time, and what it
does to a provider in mode `success` does not depend on it. A write that picks another mode stamps a new
time. So two states that differ in the time of the last write, while the mode is `success`, cannot be told
apart by any writer (`SameProvider`).

* `SameProvider.fresh` — a provider that was reset, and a new one;
* `applyScenario_alike` and `SameProviders.sweep` — the writers keep the relation for all providers at
  once, and answer alike.
-/

import Mathlib.Tactic.Common
import ProviderSimulator.Control.ApplyScenario

namespace ProviderSimulator.Control

open ProviderSimulator.Lib ProviderSimulator.Python ProviderSimulator.Domain
open ProviderSimulator.FaultPolicy

/-- Is the stored mode `success`? -/
def succeeds (state : ProviderState) : Bool := (state.scenario.values .mode).eqText "success"

/-- The states agree in all but a time of the last write that nothing reads. -/
structure SameProvider (first second : ProviderState) : Prop where
  scenario : first.scenario = second.scenario
  lastWriteAt : succeeds first = false → first.lastWriteAt = second.lastWriteAt
  quirks : first.quirks = second.quirks
  failCount : first.failCount = second.failCount
  executed : first.executed = second.executed

/-- Every provider of the one is like the provider of the other. -/
def SameProviders (first second : Stored) : Prop := ∀ key, SameProvider (first key) (second key)

/-! ### One provider -/

namespace SameProvider

variable {first second : ProviderState}

theorem refl (state : ProviderState) : SameProvider state state := ⟨rfl, fun _ => rfl, rfl, rfl, rfl⟩

/-- **A provider that was reset, and a new one.** -/
theorem fresh (provider : Provider) (old : ProviderState) :
    SameProvider (resetProvider provider old) (.fresh provider.chain) :=
  ⟨rfl, nofun, rfl, rfl, rfl⟩

theorem resetProvider (provider : Provider) (first second : ProviderState) :
    SameProvider (resetProvider provider first) (Control.resetProvider provider second) :=
  ⟨rfl, nofun, rfl, rfl, rfl⟩

theorem resetFail (same : SameProvider first second) : SameProvider first.resetFail second.resetFail :=
  ⟨same.scenario, same.lastWriteAt, same.quirks, rfl, same.executed⟩

theorem resetScenario (same : SameProvider first second) :
    SameProvider first.resetScenario second.resetScenario :=
  ⟨rfl, nofun, same.quirks, same.failCount, same.executed⟩

theorem consumeFail (same : SameProvider first second) :
    SameProvider first.consumeFail.1 second.consumeFail.1 :=
  ⟨same.scenario, same.lastWriteAt, same.quirks, congrArg (· + 1) same.failCount, same.executed⟩

theorem rememberExecuted (same : SameProvider first second) (digest : String) (time : ℚ) :
    SameProvider (first.rememberExecuted digest time) (second.rememberExecuted digest time) := by
  unfold ProviderState.rememberExecuted
  rw [same.executed]
  split
  · exact same
  · exact ⟨same.scenario, same.lastWriteAt, same.quirks, same.failCount, rfl⟩

/-- The same block is stored in both, and its mode is the old one. -/
theorem store (same : SameProvider first second) (config : ScenarioConfig)
    (mode : config.values .mode = first.scenario.values .mode) :
    SameProvider { first with scenario := config } { second with scenario := config } := by
  refine ⟨rfl, fun other => same.lastWriteAt ?_, same.quirks, same.failCount, same.executed⟩
  have kept : succeeds { first with scenario := config } = succeeds first :=
    congrArg (Value.eqText · "success") mode
  exact kept.symm.trans other

/-- An update of the scenario is refused in both, or it stamps the same time on both. -/
theorem updateScenario (same : SameProvider first second) (cfg : ScenarioUpdates) (now : ℚ) :
    (∃ raised, first.updateScenario cfg now = .error raised ∧ second.updateScenario cfg now = .error raised) ∨
      ∃ one two, first.updateScenario cfg now = .ok one ∧ second.updateScenario cfg now = .ok two ∧
        SameProvider one two := by
  unfold ProviderState.updateScenario
  rw [same.scenario]
  cases second.scenario.update cfg with
  | error raised => exact .inl ⟨raised, rfl, rfl⟩
  | ok written =>
      exact .inr ⟨_, _, rfl, rfl, rfl, fun _ => rfl, same.quirks, same.failCount, same.executed⟩

theorem updateQuirks (same : SameProvider first second) (chain : Chain) (cfg : QuirksUpdates) :
    (∃ raised, first.updateQuirks chain cfg = .error raised ∧ second.updateQuirks chain cfg = .error raised) ∨
      ∃ one two, first.updateQuirks chain cfg = .ok one ∧ second.updateQuirks chain cfg = .ok two ∧
        SameProvider one two := by
  unfold ProviderState.updateQuirks
  rw [same.quirks]
  cases Domain.updateQuirks cfg chain second.quirks with
  | error raised => exact .inl ⟨raised, rfl, rfl⟩
  | ok written =>
      exact .inr ⟨_, _, rfl, rfl, same.scenario, same.lastWriteAt, rfl, same.failCount, same.executed⟩

/-- The write of the two configs ends alike. -/
theorem writeConfigs (same : SameProvider first second) (staged : Staged) (now : ℚ) :
    (writeConfigs staged now first).failed = (Control.writeConfigs staged now second).failed ∧
      SameProvider (Control.writeConfigs staged now first).state (Control.writeConfigs staged now second).state := by
  unfold Control.writeConfigs
  rcases same.updateScenario staged.scenario now with ⟨raised, one, two⟩ | ⟨stamped, stamped', one, two, both⟩
  · rw [one, two]
    exact ⟨rfl, same⟩
  · rw [one, two]
    dsimp only
    split
    · exact ⟨rfl, both⟩
    · rcases both.updateQuirks staged.provider.chain staged.quirks with
        ⟨raised, one, two⟩ | ⟨quirked, quirked', one, two, both'⟩
      · rw [one, two]
        exact ⟨rfl, both⟩
      · rw [one, two]
        exact ⟨rfl, both'⟩

theorem writeProvider (same : SameProvider first second) (staged : Staged) (now : ℚ) :
    (writeProvider staged now first).failed = (Control.writeProvider staged now second).failed ∧
      SameProvider (Control.writeProvider staged now first).state
        (Control.writeProvider staged now second).state := by
  unfold Control.writeProvider
  split
  · exact same.resetFail.writeConfigs staged now
  · exact same.writeConfigs staged now

/-- The sweep reads the time of the last write for a mode other than `success` only. -/
theorem revertStale (same : SameProvider first second) (ttl now : ℚ) (clock : ProviderKey → ℚ)
    (provider : Provider) :
    SameProvider (revertStale ttl now clock provider first) (Control.revertStale ttl now clock provider second) := by
  have modes : succeeds second = succeeds first := by
    unfold succeeds
    rw [same.scenario]
  unfold Control.revertStale
  cases mode : succeeds first with
  | true =>
      have one : (first.scenario.values .mode).eqText "success" = true := mode
      have two : (second.scenario.values .mode).eqText "success" = true := modes.trans mode
      rw [if_pos one, if_pos two, ite_self, ite_self]
      exact same
  | false =>
      have one : (first.scenario.values .mode).eqText "success" = false := mode
      have two : (second.scenario.values .mode).eqText "success" = false := modes.trans mode
      rw [same.lastWriteAt mode, one, two, if_neg Bool.false_ne_true, if_neg Bool.false_ne_true]
      split
      · exact same
      · exact same.resetScenario

end SameProvider

/-! ### The check loop reads the stored blocks only -/

section

variable {layout : Layout} {first second : Stored}

theorem checkBlock_alike (same : SameProviders first second) (key : String) (block : Value) :
    checkBlock layout first key block = checkBlock layout second key block := by
  unfold checkBlock checkUpdates
  simp only [(same _).scenario]

theorem checkBody_alike (same : SameProviders first second) (body : Value) :
    checkBody layout first body = checkBody layout second body := by
  have blocks : ∀ given, checkBlocks layout first given = checkBlocks layout second given := by
    intro given
    induction given with
    | nil => rfl
    | cons item rest ih =>
        unfold checkBlocks
        rw [checkBlock_alike same, ih]
  unfold checkBody
  simp only [blocks]

theorem portWishes_alike (same : SameProviders first second) (endpoints : List Endpoint) :
    portWishes layout first endpoints = portWishes layout second endpoints := by
  induction endpoints with
  | nil => rfl
  | cons endpoint rest ih =>
      unfold portWishes
      rw [ih]
      simp only [(same _).scenario]

/-! ### All providers -/

/-- Both get the same kind of state at one key. -/
theorem SameProviders.update (same : SameProviders first second) (key : ProviderKey) {one two : ProviderState}
    (both : SameProvider one two) :
    SameProviders (Function.update first key one) (Function.update second key two) := by
  intro other
  by_cases here : other = key
  · subst here
    rw [Function.update_self, Function.update_self]
    exact both
  · rw [Function.update_of_ne here, Function.update_of_ne here]
    exact same other

/-- A loop that writes each provider keeps the relation where each of its writes gives it. -/
theorem SameProviders.writeEach {one two : Provider → ProviderState → ProviderState}
    (keeps : ∀ provider first second, SameProvider first second →
      SameProvider (one provider first) (two provider second))
    (same : SameProviders first second) (providers : List Provider) :
    SameProviders (writeEach one providers first) (Control.writeEach two providers second) := by
  induction providers generalizing first second with
  | nil => exact same
  | cons provider rest ih => exact ih (same.update provider.key (keeps provider _ _ (same provider.key)))

theorem SameProviders.sweep (same : SameProviders first second) (ttl now : ℚ) (clock : ProviderKey → ℚ) :
    SameProviders (revertStaleScenarios layout ttl now clock first)
      (revertStaleScenarios layout ttl now clock second) :=
  same.writeEach (fun provider _ _ both => both.revertStale ttl now clock provider) _

theorem writeAll_alike (clock : ProviderKey → ℚ) (staged : List Staged) (same : SameProviders first second)
    (written : Written) :
    (writeAll layout clock staged first written).2 = (writeAll layout clock staged second written).2 ∧
      SameProviders (writeAll layout clock staged first written).1
        (writeAll layout clock staged second written).1 := by
  induction staged generalizing first second written with
  | nil => exact ⟨rfl, same⟩
  | cons block rest ih =>
      obtain ⟨ends, both⟩ := (same block.provider.key).writeProvider block (clock block.provider.key)
      have next := same.update block.provider.key both
      unfold writeAll
      dsimp only
      rw [ends]
      cases (writeProvider block (clock block.provider.key) (second block.provider.key)).failed with
      | some raised => exact ⟨rfl, next⟩
      | none =>
          dsimp only
          rw [portWishes_alike next]
          cases portWishes layout _ block.provider.endpoints with
          | error error => exact ⟨rfl, next⟩
          | ok wishes => exact ih next _

/-- **Providers that cannot be told apart answer `POST /scenario` alike.** -/
theorem applyScenario_alike (settlePorts : List Wish → String) (clock : ProviderKey → ℚ)
    (same : SameProviders first second) (body : Json) :
    (applyScenario layout settlePorts clock first body).answer =
        (applyScenario layout settlePorts clock second body).answer ∧
      SameProviders (applyScenario layout settlePorts clock first body).state
        (applyScenario layout settlePorts clock second body).state := by
  unfold applyScenario
  rw [checkBody_alike same]
  cases checkBody layout second body.value with
  | error raised => cases raised <;> exact ⟨rfl, same⟩
  | ok staged =>
      have both : (writeAll layout clock staged first {}).2 = (writeAll layout clock staged second {}).2 ∧
          SameProviders _ _ := writeAll_alike clock staged same {}
      obtain ⟨ends, next⟩ := both
      dsimp only
      cases one : writeAll layout clock staged first {} with
      | mk state ended =>
          cases two : writeAll layout clock staged second {} with
          | mk state' ended' =>
              rw [one, two] at ends next
              cases ends
              cases ended with
              | error raised => cases raised <;> exact ⟨rfl, next⟩
              | ok written =>
                  dsimp only
                  split
                  · exact ⟨rfl, next⟩
                  · exact ⟨rfl, next⟩

end

end ProviderSimulator.Control
