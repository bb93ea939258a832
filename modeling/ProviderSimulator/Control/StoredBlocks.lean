/-
**What every run of the writers leaves stored.**

A call of `POST /scenario` stores a block over the stored one only after its checks, and a reset or a
sweep stores the defaults. So what the checks promise of a given field holds of the stored one, in every
state that a run reaches. `fail_first_n` is a count, which the comparison of the window relies on.

* `writeStep_keeps` — one step keeps what each stored block keeps;
* `run_counted` — every run.
-/

import Mathlib.Tactic.Common
import ProviderSimulator.Control.PortClosed

namespace ProviderSimulator.Control

open ProviderSimulator.Lib ProviderSimulator.Python ProviderSimulator.Domain

/-- **One step of the writers.** What holds of the defaults, and is kept by a block that passed its
checks, is kept for every provider. -/
theorem writeStep_keeps {Holds : Scenario → Prop} {layout : Layout}
    (default : Holds ScenarioConfig.default.values)
    (block : ∀ state key entries staged, Passed layout state key entries staged →
      ∀ old, Holds old → Holds (staged.scenario.over old))
    {state next : Stored} {action : WriteAction} (stepped : writeStep layout state action = some next)
    (holds : ∀ key, Holds (state key).scenario.values) : ∀ key, Holds (next key).scenario.values := by
  intro key
  have left := writeStep_stored stepped key
  generalize (next key).scenario.values = values at left
  cases left with
  | same => exact holds key
  | default => exact default
  | block _ _ _ _ passed written _ =>
      rw [written]
      exact block state _ _ _ passed _ (holds key)

/-- Every provider starts with the defaults. -/
theorem initial_values (layout : Layout) (key : ProviderKey) :
    (initial layout key).scenario.values = ScenarioConfig.default.values := by
  unfold initial
  split <;> rfl

/-- The `fail_first_n` of a block is a count. -/
def Counted (values : Scenario) : Prop := isCount (values .failFirstN) = true

theorem Counted.default : Counted ScenarioConfig.default.values := by
  unfold Counted
  decide

/-- A count is an integer. -/
theorem Counted.number {values : Scenario} (counted : Counted values) :
    ∃ count : ℤ, values .failFirstN = .int count := by
  unfold Counted isCount at counted
  cases value : values .failFirstN with
  | int count => exact ⟨count, rfl⟩
  | _ =>
      rw [value] at counted
      cases counted

theorem Counted.over {layout : Layout} {state : Stored} {key : String} {entries : List (Key × Value)}
    {staged : Staged} (passed : Passed layout state key entries staged) {old : Scenario}
    (counted : Counted old) : Counted (staged.scenario.over old) := by
  unfold Counted
  rw [Block.over_eq]
  cases given : staged.scenario.items.get .failFirstN with
  | none => exact counted
  | some value => exact passed.numbers.count value given

/-- **Every stored `fail_first_n` is a count.** -/
theorem run_counted {layout : Layout} {actions : List WriteAction} {final : Stored}
    (done : run (writeStep layout) (initial layout) actions = some final) (key : ProviderKey) :
    Counted (final key).scenario.values := by
  have start : ∀ key, Counted (initial layout key).scenario.values := by
    intro key
    rw [initial_values]
    exact Counted.default
  refine run_invariant (fun state : Stored => ∀ key, Counted (state key).scenario.values) ?_ done start key
  intro state action next stepped held
  exact writeStep_keeps Counted.default (fun _ _ _ _ passed _ => Counted.over passed) stepped held

end ProviderSimulator.Control
