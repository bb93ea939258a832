/-
**Providers and their registry.**

The registry is built once from the topology and never changes: pools by name, and in each pool its
providers by pid, with their endpoints. What changes is the state of a provider: its fault
configuration, its quirks, the counter of its `fail_first_n` window and its memory of executed
transactions. State is never shared between providers, so it is a function of the `ProviderKey`.
-/

import Mathlib.Tactic.Common
import ProviderSimulator.Domain.Quirks
import ProviderSimulator.Domain.Scenario

namespace ProviderSimulator.Domain

open ProviderSimulator.Lib ProviderSimulator.Python

/-- The name of a provider: its pool and its pid. -/
structure ProviderKey where
  pool : String
  pid : String
  deriving DecidableEq

/-- `Provider.key`. -/
def ProviderKey.text (key : ProviderKey) : String := key.pool ++ ":" ++ key.pid

/-- What never changes of a provider. -/
structure Provider where
  key : ProviderKey
  chain : Chain
  endpoints : List Endpoint

/-- `Pool`: its chain, and the endpoints of each of its providers. -/
structure Pool where
  chain : Chain
  providers : Dict String (List Endpoint)

/-- `Registry`. `build_registry` refuses a pool name that holds a colon. -/
structure Registry where
  pools : Dict String Pool
  plain : ∀ name ∈ pools.keys, ':' ∉ name.toList

/-- Why `Registry.provider` raises its `KeyError`. -/
inductive RegistryRefusal
  | noPool (pool : String) (pools : List String)
  | noProvider (key : ProviderKey) (pids : List String)

/-- `sorted` on texts. -/
def sortedTexts (texts : List String) : List String := texts.mergeSort fun a b => decide (a ≤ b)

/-- A list of texts as a value. -/
def textList (texts : List String) : Value := .list (texts.map .str)

/-- The text of a `KeyError`, which the language quotes. -/
def RegistryRefusal.text (repr : Value → String) : RegistryRefusal → String
  | .noPool pool pools =>
      repr (.str ("no pool " ++ repr (.str pool) ++ "; pools are " ++
        repr (textList (sortedTexts pools))))
  | .noProvider key pids =>
      repr (.str ("no provider " ++ key.text ++ "; providers in " ++ repr (.str key.pool) ++ " are " ++
        repr (textList (sortedTexts pids))))

namespace Registry

/-- `Registry.provider`. -/
def provider (registry : Registry) (pool pid : String) : Except RegistryRefusal Provider :=
  match registry.pools.get pool with
  | none => .error (.noPool pool registry.pools.keys)
  | some found =>
      match found.providers.get pid with
      | none => .error (.noProvider ⟨pool, pid⟩ found.providers.keys)
      | some endpoints => .ok ⟨⟨pool, pid⟩, found.chain, endpoints⟩

/-- The providers of one pool. -/
def providersOf (name : String) (pool : Pool) : List Provider :=
  pool.providers.map fun row => ⟨⟨name, row.1⟩, pool.chain, row.2⟩

/-- `Registry.all_providers`. -/
def allProviders (registry : Registry) : List Provider :=
  registry.pools.flatMap fun row => providersOf row.1 row.2

theorem provider_pool {registry : Registry} {pool pid : String} {found : Provider}
    (served : registry.provider pool pid = .ok found) : ':' ∉ pool.toList := by
  unfold provider at served
  split at served
  · cases served
  · next row here => exact registry.plain pool (List.mem_map.mpr ⟨_, Dict.get_mem here, rfl⟩)

theorem provider_key {registry : Registry} {pool pid : String} {found : Provider}
    (served : registry.provider pool pid = .ok found) : found.key = ⟨pool, pid⟩ := by
  unfold provider at served
  split at served
  · cases served
  · split at served
    · cases served
    · cases served
      rfl

end Registry

/-! ### The state of a provider -/

/-- `EXECUTED_MEMORY_CAP`. -/
def executedMemoryCap : ℕ := 10000

/-- What changes of a provider. -/
structure ProviderState where
  scenario : ScenarioConfig
  /-- The time of the last `update` of the scenario, if there was one. -/
  lastWriteAt : Option ℚ
  quirks : Quirks
  /-- The counter of the `fail_first_n` window. -/
  failCount : ℕ
  /-- The executed digests, each with the time of its first run. -/
  executed : Dict String ℚ

namespace ProviderState

/-- A provider as `add_provider` builds it. -/
def fresh (chain : Chain) : ProviderState :=
  ⟨ScenarioConfig.default, none, chain.quirksDefault, 0, []⟩

variable (state : ProviderState)

/-- `consume_fail`: the new state, and the count that it returns. -/
def consumeFail : ProviderState × ℕ :=
  ({ state with failCount := state.failCount + 1 }, state.failCount + 1)

/-- `reset_fail`. -/
def resetFail : ProviderState := { state with failCount := 0 }

/-- `remember_executed`. -/
def rememberExecuted (digest : String) (time : ℚ) : ProviderState :=
  if state.executed.has digest then state
  else
    let executed := state.executed.set digest time
    { state with executed := if executedMemoryCap < executed.length then executed.tail else executed }

/-- `forget_executed`. -/
def forgetExecuted : ProviderState := { state with executed := [] }

/-- `scenario.reset`, which leaves the time of the last write as it is. -/
def resetScenario : ProviderState := { state with scenario := ScenarioConfig.default }

/-- `quirks.reset`. -/
def resetQuirks (chain : Chain) : ProviderState := { state with quirks := chain.quirksDefault }

/-- `scenario.update` at a time. -/
def updateScenario (cfg : ScenarioUpdates) (now : ℚ) :
    Except (Raised ScenarioRefusal) ProviderState := do
  let written ← state.scenario.update cfg
  pure { state with scenario := written, lastWriteAt := some now }

/-- `quirks.update`. -/
def updateQuirks (chain : Chain) (cfg : QuirksUpdates) :
    Except (Raised QuirksRefusal) ProviderState := do
  let written ← Domain.updateQuirks cfg chain state.quirks
  pure { state with quirks := written }

end ProviderState

end ProviderSimulator.Domain
