/-
**What a reset does.**

The loop of a reset never stops early, since a stored block always says whether its ports are closed. So
a reset within its scope is one equation (`performReset_eq`): the heads of the chains of the scope, the
providers of the scope, their logs, and then the caches and the proxies. A reset that has no scope
changes nothing.

* `ResetsPool` — what a reset of one pool does and what it leaves as it is;
* `performReset_pool` — every scenario reset of a known pool does this;
* `performReset_refused` — an unknown pool, and one that is no text.
-/

import Mathlib.Tactic.Common
import ProviderSimulator.Control.AllOrNothing
import ProviderSimulator.Simulator.Model

namespace ProviderSimulator.Simulator

open ProviderSimulator.Lib ProviderSimulator.Python ProviderSimulator.Domain ProviderSimulator.Control

/-! ### Loops over providers -/

/-- The keys of some providers. -/
def keysOf (providers : List Provider) : List ProviderKey := providers.map Provider.key

/-- `log.clear()` for one provider after another. -/
def clearEach : List Provider → (ProviderKey → CallLog) → ProviderKey → CallLog
  | [], logs => logs
  | provider :: rest, logs =>
      clearEach rest (Function.update logs provider.key (logs provider.key).clear)

/-- A log without rows and with zero counters. -/
structure EmptyLog (log : CallLog) : Prop where
  history : log.history = []
  totalCalls : log.totalCalls = 0
  callsByStatus : log.callsByStatus = []

theorem EmptyLog.clear (log : CallLog) : EmptyLog log.clear := ⟨rfl, rfl, rfl⟩

theorem clearEach_of_not_mem {providers : List Provider} {key : ProviderKey} (outside : key ∉ keysOf providers)
    (logs : ProviderKey → CallLog) : clearEach providers logs key = logs key := by
  induction providers generalizing logs with
  | nil => rfl
  | cons provider rest ih =>
      obtain ⟨other, others⟩ := not_or.mp fun member => outside (List.mem_cons.mpr member)
      show clearEach rest _ key = _
      rw [ih others, Function.update_of_ne other]

/-- A log that is empty stays so. -/
theorem clearEach_empty (providers : List Provider) {logs : ProviderKey → CallLog} {key : ProviderKey}
    (empty : EmptyLog (logs key)) : EmptyLog (clearEach providers logs key) := by
  induction providers generalizing logs with
  | nil => exact empty
  | cons provider rest ih =>
      refine ih ?_
      by_cases here : key = provider.key
      · rw [here, Function.update_self]
        exact .clear _
      · rw [Function.update_of_ne here]
        exact empty

theorem clearEach_of_mem {providers : List Provider} {key : ProviderKey} (member : key ∈ keysOf providers)
    (logs : ProviderKey → CallLog) : EmptyLog (clearEach providers logs key) := by
  induction providers generalizing logs with
  | nil => cases member
  | cons provider rest ih =>
      rcases List.mem_cons.mp member with here | later
      · refine clearEach_empty rest ?_
        rw [here, Function.update_self]
        exact .clear _
      · exact ih later _

theorem writeEach_of_not_mem {write : Provider → ProviderState → ProviderState} {providers : List Provider}
    {key : ProviderKey} (outside : key ∉ keysOf providers) (stored : Stored) :
    writeEach write providers stored key = stored key := by
  induction providers generalizing stored with
  | nil => rfl
  | cons provider rest ih =>
      obtain ⟨other, others⟩ := not_or.mp fun member => outside (List.mem_cons.mpr member)
      show writeEach write rest _ key = _
      rw [ih others, Function.update_of_ne other]

/-- What each write gives, whatever was stored, the loop leaves at each of its keys. -/
theorem writeEach_of_mem {write : Provider → ProviderState → ProviderState} {Given : ProviderState → Prop}
    {providers : List Provider} (gives : ∀ provider ∈ providers, ∀ old, Given (write provider old))
    {key : ProviderKey} (member : key ∈ keysOf providers) (stored : Stored) :
    Given (writeEach write providers stored key) := by
  have keeps : ∀ rest : List Provider, (∀ provider ∈ rest, ∀ old, Given (write provider old)) →
      ∀ stored : Stored, Given (stored key) → Given (writeEach write rest stored key) := by
    intro rest
    induction rest with
    | nil => exact fun _ _ given => given
    | cons provider rest ih =>
        intro gives stored given
        refine ih (fun other there => gives other (List.mem_cons_of_mem _ there)) _ ?_
        by_cases here : key = provider.key
        · rw [here, Function.update_self]
          exact gives provider List.mem_cons_self _
        · rw [Function.update_of_ne here]
          exact given
  induction providers generalizing stored with
  | nil => cases member
  | cons provider rest ih =>
      have others : ∀ other ∈ rest, ∀ old, Given (write other old) := fun other there =>
        gives other (List.mem_cons_of_mem _ there)
      rcases List.mem_cons.mp member with here | later
      · refine keeps rest others _ ?_
        rw [here, Function.update_self]
        exact gives provider List.mem_cons_self _
      · exact ih others later _

/-! ### The loop of a reset -/

/-- What a reset has done to some providers. -/
def State.resetAt (state : State) (call : ResetCall) (providers : List Provider) : State :=
  { state with
    stored := if call.scenario then writeEach resetProvider providers state.stored else state.stored
    logs := if call.history then clearEach providers state.logs else state.logs }

theorem resetAt_cons (state : State) (call : ResetCall) (provider : Provider) (rest : List Provider) :
    state.resetAt call (provider :: rest) = ((state.resetOne call provider).clearOne call provider).resetAt call rest := by
  cases call with
  | reset => rfl
  | clearHistory => rfl
  | resetAll => rfl

/-- **The loop ends**, and it resets each provider. -/
theorem resetEach_eq (layout : Layout) (call : ResetCall) (providers : List Provider) (state : State)
    (wishes : List Wish) :
    ∃ asked, resetEach layout call providers state wishes = (state.resetAt call providers, .ok asked) := by
  induction providers generalizing state wishes with
  | nil =>
      refine ⟨wishes, ?_⟩
      cases call <;> rfl
  | cons provider rest ih =>
      have read : ∃ more, (if call.scenario then
          portWishes layout (state.resetOne call provider).stored provider.endpoints else .ok []) = .ok more := by
        split
        · exact portWishes_ok layout _ provider.endpoints
        · exact ⟨[], rfl⟩
      obtain ⟨more, read⟩ := read
      obtain ⟨asked, ended⟩ := ih ((state.resetOne call provider).clearOne call provider) (wishes ++ more)
      refine ⟨asked, ?_⟩
      unfold resetEach
      dsimp only
      rw [read]
      dsimp only
      rw [ended, resetAt_cons]

/-! ### The whole call -/

section

variable (world : World)

/-- What a reset within its scope leaves. -/
def State.resetWithin (state : State) (call : ResetCall) (whole : Bool) (scope : ResetScope) : State :=
  let moved := if call.scenario then { state with heads := resetHeads scope.chains state.heads } else state
  (moved.resetAt call scope.providers).resetOthers world call whole

/-- **A reset within its scope.** -/
theorem performReset_eq {pool : Value} {scope : ResetScope} (found : scopeOf world.layout pool = .ok scope)
    (state : State) (call : ResetCall) (settlePorts : List Wish → String) :
    ∃ answer, state.performReset world call pool settlePorts =
      (state.resetWithin world call pool.isNone scope, .ok answer) := by
  unfold State.performReset
  rw [found]
  obtain ⟨asked, ended⟩ := resetEach_eq world.layout call scope.providers
    (if call.scenario then { state with heads := resetHeads scope.chains state.heads } else state) []
  dsimp only
  rw [ended]
  exact ⟨_, rfl⟩

/-- A scenario reset within its scope, part by part. -/
theorem resetWithin_scenario {call : ResetCall} (scenario : call.scenario = true) (state : State) (whole : Bool)
    (scope : ResetScope) :
    state.resetWithin world call whole scope =
      { stored := writeEach resetProvider scope.providers state.stored
        logs := if call.history then clearEach scope.providers state.logs else state.logs
        heads := resetHeads scope.chains state.heads
        caches :=
          if whole then state.caches.map fun row => (row.1, resetCache world call row.2) else state.caches
        proxies := state.proxies.map fun row => (row.1, resetProxy call whole row.2)
        requests := state.requests } := by
  cases call with
  | reset => rfl
  | clearHistory => cases scenario
  | resetAll => rfl

/-- The pool is known. -/
def KnownPool (layout : Layout) (pool : Value) : Prop :=
  pool = .none ∨ ∃ name row, pool = .str name ∧ layout.registry.pools.get name = some row

/-- **A pool that is unknown, or no text: nothing changes.** -/
theorem performReset_refused {pool : Value} (unknown : ¬ KnownPool world.layout pool) (state : State)
    (call : ResetCall) (settlePorts : List Wish → String) :
    ∃ refusal, state.performReset world call pool settlePorts = (state, .ok (.refused refusal)) := by
  have refused : ∃ refusal, scopeOf world.layout pool = .error refusal := by
    unfold scopeOf
    split
    · exact absurd (.inl rfl) unknown
    · next name =>
        split
        · next row found => exact absurd (.inr ⟨name, row, rfl, found⟩) unknown
        · exact ⟨_, rfl⟩
    · exact ⟨_, rfl⟩
  obtain ⟨refusal, refused⟩ := refused
  refine ⟨refusal, ?_⟩
  unfold State.performReset
  rw [refused]

/-! ### One pool -/

/-- A provider at its defaults. -/
structure AtDefaults (chain : Chain) (state : ProviderState) : Prop where
  scenario : state.scenario = ScenarioConfig.default
  quirks : state.quirks = chain.quirksDefault
  failCount : state.failCount = 0
  executed : state.executed = []

/-- A head at its base, where it stays. -/
structure AtBase (clock : HeadClock) (old head : AdvancingHead) : Prop where
  rate : head.rate = .finite 0
  base : head.base = old.base
  stands : ∀ now, head.current clock now = .ok old.base

/-- **What a reset of one pool does**, and what it leaves as it is. -/
structure ResetsPool (call : ResetCall) (name : String) (row : Pool) (state next : State) : Prop where
  providers : ∀ provider ∈ Registry.providersOf name row, AtDefaults row.chain (next.stored provider.key)
  logs : call.history = true → ∀ provider ∈ Registry.providersOf name row, EmptyLog (next.logs provider.key)
  heads : ∀ head ∈ headNames row.chain,
    AtBase world.clock (state.heads row.chain head) (next.heads row.chain head)
  otherProviders : ∀ key : ProviderKey, key.pool ≠ name →
    next.stored key = state.stored key ∧ next.logs key = state.logs key
  otherHeads : ∀ chain head, ¬ (chain = row.chain ∧ head ∈ headNames chain) →
    next.heads chain head = state.heads chain head
  caches : next.caches = state.caches
  /-- Gates and counters stay, and every latency is zero. -/
  proxies : next.proxies = state.proxies.map fun proxy => (proxy.1, { proxy.2 with latencyMs := 0 })
  requests : next.requests = state.requests

theorem AtDefaults.resetProvider (provider : Provider) (old : ProviderState) :
    AtDefaults provider.chain (resetProvider provider old) :=
  ⟨rfl, rfl, rfl, rfl⟩

theorem AtBase.reset (clock : HeadClock) (head : AdvancingHead) : AtBase clock head head.reset := by
  refine ⟨rfl, rfl, fun now => ?_⟩
  show (do pure (head.base + (← Except.ok 0)) : Except PyError ℤ) = .ok head.base
  exact congrArg Except.ok (add_zero head.base)

theorem mem_providersOf {name : String} {row : Pool} {provider : Provider}
    (member : provider ∈ Registry.providersOf name row) :
    provider.key.pool = name ∧ provider.chain = row.chain := by
  obtain ⟨item, -, rfl⟩ := List.mem_map.mp member
  exact ⟨rfl, rfl⟩

/-- **Every scenario reset of a known pool.** -/
theorem performReset_pool {name : String} {row : Pool} (known : world.layout.registry.pools.get name = some row)
    {call : ResetCall} (scenario : call.scenario = true) (state : State) (settlePorts : List Wish → String) :
    ResetsPool world call name row state (state.performReset world call (.str name) settlePorts).1 := by
  have found : scopeOf world.layout (.str name) = .ok ⟨Registry.providersOf name row, [row.chain]⟩ := by
    unfold scopeOf
    dsimp only
    rw [known]
  obtain ⟨answer, done⟩ := performReset_eq world found state call settlePorts
  rw [done, resetWithin_scenario world scenario]
  have outside : ∀ key : ProviderKey, key.pool ≠ name → key ∉ keysOf (Registry.providersOf name row) := by
    intro key other member
    obtain ⟨provider, there, rfl⟩ := List.mem_map.mp member
    exact other (mem_providersOf there).1
  refine ⟨?_, ?_, ?_, ?_, ?_, rfl, ?_, rfl⟩
  · intro provider member
    refine writeEach_of_mem (fun other there old => ?_) (List.mem_map_of_mem member) state.stored
    rw [← (mem_providersOf there).2]
    exact .resetProvider other old
  · intro history provider member
    dsimp only
    rw [if_pos history]
    exact clearEach_of_mem (List.mem_map_of_mem member) state.logs
  · intro head member
    show AtBase world.clock _ (resetHeads [row.chain] state.heads row.chain head)
    unfold resetHeads
    rw [if_pos ⟨List.mem_singleton_self _, member⟩]
    exact .reset world.clock _
  · intro key other
    refine ⟨writeEach_of_not_mem (outside key other) state.stored, ?_⟩
    dsimp only
    split
    · exact clearEach_of_not_mem (outside key other) state.logs
    · rfl
  · intro chain head other
    exact if_neg fun both => other ⟨List.mem_singleton.mp both.1, both.2⟩
  · rfl

end

end ProviderSimulator.Simulator
