/-
**The `fail_first_n` window of one provider.**

The window counter and the scenario live under two locks. A request takes a snapshot of the scenario
and then, if the block targets it and `fail_first_n` is positive, one count of the window
(`windowActive`), and its mode follows from the count (`resolveMode`). A write that names
`fail_first_n` sets the counter to 0 and then writes the block. Any number of requests and one writer
after another take these steps in any order.

The ghost state gives each block that is written a version: `blocks` keeps them, a snapshot knows its
version, `window` is the window that the last write opened, and `taken` are the counts that requests took,
with the mode that each one resolved to.

The counts of a block are the ones that requests with this very block take while its window is open
(`countsOf`). They are exact along a run in which nobody else takes a count of the window of a block with a
positive `fail_first_n`, and no count is taken of such a window that did not open at 0 (`CountsOwn`). A
request that still holds the block from before takes a count that is not its own, and a write that does not
name `fail_first_n` inherits it and leaves the counter where it was, as `stolen_count` shows.

* `writer_steps` and `accepted_of_checkBlock` — the two steps of the writer are the write of the control
  API, and the blocks that it writes are those that the check loop lets through;
* `step_window` — one step keeps `WindowInv`;
* `fail_window_exact` — every run.
-/

import Mathlib.Tactic.Common
import ProviderSimulator.Lib.Machine
import ProviderSimulator.Lib.Threads
import ProviderSimulator.Control.AllOrNothing

namespace ProviderSimulator.Control.FailWindow

open ProviderSimulator.Lib ProviderSimulator.Python ProviderSimulator.Domain
open ProviderSimulator.FaultPolicy

/-! ### The parties -/

/-- A block that the check loop let through. -/
structure Accepted where
  cfg : ScenarioUpdates
  passed : validate cfg = .ok ()
  counted : ∀ value, cfg.items.get .failFirstN = some value → isCount value = true

/-- A copy of the stored block, with its version. -/
structure Snapshot where
  values : Scenario
  version : ℕ

/-- Where a request is. -/
inductive Phase
  | arrived
  | holding (snapshot : Snapshot)
  | resolved (targeted : Bool) (mode : Value)
  | raised (error : PyError)

/-- A request on an endpoint of the provider. -/
structure Request where
  endpoint : Endpoint
  phase : Phase

/-- Where the writer is. -/
inductive Writer
  | idle
  /-- The block names `fail_first_n`, and the counter is not yet reset. -/
  | resetting (block : Accepted)
  | updating (block : Accepted)

/-- The window that is open: its block, the version of this block, and the counter where it opened. -/
structure Window where
  version : ℕ
  block : Scenario
  start : ℕ

/-- A count that a request took: the version of its snapshot, the version of the window that was open, and
the mode that the request resolved to. -/
structure Taken where
  version : ℕ
  window : ℕ
  mode : Value

/-- The provider, its requests and the writer. -/
structure State where
  scenario : ScenarioConfig
  failCount : ℕ
  writer : Writer
  requests : List Request
  version : ℕ
  blocks : ℕ → Scenario
  window : Window
  taken : List Taken

/-- A fresh provider. -/
def State.initial : State :=
  ⟨ScenarioConfig.default, 0, .idle, [], 0, fun _ => ScenarioField.default, ⟨0, ScenarioField.default, 0⟩, []⟩

/-! ### The steps -/

/-- The steps of the parties. -/
inductive Action
  | arrive (endpoint : Endpoint)
  /-- The request takes its snapshot. -/
  | snapshot (request : ℕ)
  /-- The request runs `resolve_mode`. -/
  | resolve (request : ℕ)
  | beginWrite (block : Accepted)
  /-- The writer runs `reset_fail`. -/
  | resetFail
  /-- The writer runs `scenario.update`. -/
  | update

/-- `resolve_mode` of a request that holds a snapshot. -/
def resolve (state : State) (id : ℕ) (request : Request) (snapshot : Snapshot) : State :=
  let ended (phase : Phase) := state.requests.set id { request with phase := phase }
  match windowActive snapshot.values request.endpoint with
  | .error error => { state with requests := ended (.raised error) }
  | .ok false =>
      match resolveMode snapshot.values request.endpoint 0 with
      | .error error => { state with requests := ended (.raised error) }
      | .ok (targeted, mode) => { state with requests := ended (.resolved targeted mode) }
  | .ok true =>
      let count := state.failCount + 1
      match resolveMode snapshot.values request.endpoint count with
      | .error error => { state with failCount := count, requests := ended (.raised error) }
      | .ok (targeted, mode) =>
          { state with
            failCount := count
            requests := ended (.resolved targeted mode)
            taken := state.taken ++ [⟨snapshot.version, state.window.version, mode⟩] }

/-- The writer sets the counter to 0, and opens the window of the block that it will write. -/
def afterReset (state : State) (block : Accepted) : State :=
  { state with
    failCount := 0, writer := .updating block
    window := ⟨state.version + 1, block.cfg.over state.scenario.values, 0⟩ }

/-- The writer has written its block. The window of a block that does not name `fail_first_n` opens only here,
at the count that the counter has. -/
def afterUpdate (state : State) (block : Accepted) (written : ScenarioConfig) : State :=
  { state with
    scenario := written
    writer := .idle
    version := state.version + 1
    blocks := Function.update state.blocks (state.version + 1) written.values
    window :=
      if block.cfg.names .failFirstN then state.window
      else ⟨state.version + 1, written.values, state.failCount⟩ }

/-- One step. -/
def step (state : State) : Action → Option State
  | .arrive endpoint => some { state with requests := state.requests ++ [⟨endpoint, .arrived⟩] }
  | .snapshot id =>
      match state.requests[id]? with
      | some ⟨endpoint, .arrived⟩ =>
          let held := Phase.holding ⟨state.scenario.values, state.version⟩
          some { state with requests := state.requests.set id ⟨endpoint, held⟩ }
      | _ => none
  | .resolve id =>
      match state.requests[id]? with
      | some ⟨endpoint, .holding snapshot⟩ =>
          some (resolve state id ⟨endpoint, .holding snapshot⟩ snapshot)
      | _ => none
  | .beginWrite block =>
      match state.writer with
      | .idle =>
          some { state with
            writer := if block.cfg.names .failFirstN then .resetting block else .updating block }
      | _ => none
  | .resetFail =>
      match state.writer with
      | .resetting block => some (afterReset state block)
      | _ => none
  | .update =>
      match state.writer with
      | .updating block =>
          match state.scenario.update block.cfg with
          | .ok written => some (afterUpdate state block written)
          | .error _ => none
      | _ => none

/-! ### The promise -/

/-- The counts of a block: those that requests with this block took while its window was open, in
their order. -/
def countsOf (taken : List Taken) (version : ℕ) : List Taken :=
  taken.filter fun count => decide (count.version = version ∧ count.window = version)

/-- What the first `count` requests of a block resolve to. -/
def modesOf (block : Scenario) (limit : ℤ) (count : ℕ) : List Value :=
  (List.range count).map fun index : ℕ =>
    if (index : ℤ) < limit then block .mode else block .thenMode

/-- The first `fail_first_n` requests of each block resolve to its `mode`, and the later ones to its
`then_mode`. -/
def WindowExact (state : State) : Prop :=
  ∀ version limit, version ≤ state.version → state.blocks version .failFirstN = .int limit →
    (countsOf state.taken version).map Taken.mode =
      modesOf (state.blocks version) limit (countsOf state.taken version).length

/-- The condition on a step: a request that takes a count of the window of a block with a positive
`fail_first_n` holds this very block, and the window opened at 0. -/
def CountsOwn (state : State) : Action → Prop
  | .resolve id => ∀ endpoint snapshot limit,
      state.requests[id]? = some ⟨endpoint, .holding snapshot⟩ →
      windowActive snapshot.values endpoint = .ok true →
      state.window.block .failFirstN = .int limit → 0 < limit →
      snapshot.version = state.window.version ∧ state.window.start = 0
  | _ => True

/-! ### The writer is the one of the control API -/

/-- **A block that the check loop lets through can be written here.** -/
theorem accepted_of_checkBlock {layout : Layout} {stored : Stored} {key : String} {block : Value}
    {staged : Staged} (passed : checkBlock layout stored key block = .ok staged) :
    ∃ accepted : Accepted, accepted.cfg = staged.scenario := by
  unfold checkBlock at passed
  split at passed
  · split at passed
    · cases passed
    · obtain ⟨provider, -, later⟩ := bind_eq_ok passed
      obtain ⟨updates, read, last⟩ := bind_eq_ok later
      obtain ⟨_, -, afterRules⟩ := bind_eq_ok last
      obtain ⟨_, scenario, afterScenario⟩ := bind_eq_ok afterRules
      obtain ⟨_, -, done⟩ := bind_eq_ok afterScenario
      cases done
      refine ⟨⟨updates.scenario, mapRefusal_eq_ok scenario, ?_⟩, rfl⟩
      refine (readFields_numbersGiven read ?_).count
      intro field value other here
      cases here
  · cases passed

/-- The steps of the writer for one block. -/
def writerSteps (block : Accepted) : List Action :=
  if block.cfg.names .failFirstN then [.beginWrite block, .resetFail, .update]
  else [.beginWrite block, .update]

/-- **The steps of the writer, one after the other, are the write of the control API.** -/
theorem writer_steps {state : State} (idle : state.writer = .idle) (block : Accepted)
    {staged : Staged} (same : staged.scenario = block.cfg)
    (quirks : validateQuirks staged.quirks staged.provider.chain = .ok ()) (now : ℚ)
    {old : ProviderState} (scenario : old.scenario = state.scenario)
    (count : old.failCount = state.failCount) :
    ∃ final, run step state (writerSteps block) = some final ∧ final.writer = .idle ∧
      (writeProvider staged now old).state.scenario.values = final.scenario.values ∧
      (writeProvider staged now old).state.failCount = final.failCount := by
  obtain ⟨config, values, written⟩ :=
    writeProvider_of_valid (same ▸ block.passed) quirks now old
  obtain ⟨stored, updated, storedValues⟩ := state.scenario.update_of_validate block.passed
  have sameValues : config.values = stored.values := by
    rw [values, storedValues, same, scenario]
  rw [written]
  unfold writerSteps afterBlock
  by_cases named : block.cfg.names .failFirstN
  · rw [if_pos named]
    refine ⟨afterUpdate (afterReset state block) block stored, ?_, rfl, sameValues, ?_⟩
    · simp only [run, step, idle, named, if_true, Option.bind_some, afterReset, updated]
    · simp only [same, named, if_true]
      rfl
  · rw [if_neg named]
    refine ⟨afterUpdate { state with writer := .updating block } block stored, ?_, rfl, sameValues, ?_⟩
    · simp only [run, step, idle, named, Option.bind_some, Bool.false_eq_true, if_false, updated]
    · simp only [same, named]
      exact count

/-! ### The invariant -/

/-- A snapshot that the request holds is the block of its version. -/
def HoldsBlock (state : State) (request : Request) : Prop :=
  ∀ snapshot, request.phase = .holding snapshot →
    snapshot.version ≤ state.version ∧ snapshot.values = state.blocks snapshot.version

/-- What every run keeps. -/
structure WindowInv (state : State) : Prop where
  /-- The stored block is the newest one. -/
  current : state.blocks state.version = state.scenario.values
  held : ∀ (id : ℕ) request, state.requests[id]? = some request → HoldsBlock state request
  /-- Each block has an integer for `fail_first_n`. -/
  counted : ∀ version ≤ state.version, ∃ limit, state.blocks version .failFirstN = .int limit
  /-- No count is of a block that is not written. -/
  past : ∀ count ∈ state.taken, count.version ≤ state.version
  /-- The window is the one of the newest block, or of the block that comes next. -/
  opened : (state.window.version = state.version ∧ state.window.block = state.scenario.values) ∨
    state.window.version = state.version + 1
  /-- The counter of a window moves by the counts of its block. -/
  counting : ∀ limit, state.window.block .failFirstN = .int limit → 0 < limit →
    state.failCount = state.window.start + (countsOf state.taken state.window.version).length
  /-- A writer that has reset the counter has opened the window of its block. -/
  writing : ∀ block, state.writer = .updating block → block.cfg.names .failFirstN = true →
    state.window = ⟨state.version + 1, block.cfg.over state.scenario.values, 0⟩
  exact : WindowExact state

namespace WindowInv

variable {state : State}

theorem initial : WindowInv State.initial := by
  refine ⟨rfl, fun id request found => ?_, fun _ _ => ⟨0, rfl⟩, fun count member => ?_,
    .inl ⟨rfl, rfl⟩, fun _ _ _ => rfl, fun block idle => ?_, fun _ _ _ _ => rfl⟩
  · cases found
  · cases member
  · cases idle

/-- The requests move and nothing else does. -/
theorem of_requests (inv : WindowInv state) {requests : List Request}
    (held : ∀ (id : ℕ) request, requests[id]? = some request → HoldsBlock state request) :
    WindowInv { state with requests := requests } :=
  ⟨inv.current, held, inv.counted, inv.past, inv.opened, inv.counting, inv.writing, inv.exact⟩

/-- One request moves on, and what it may hold then is the newest block. -/
theorem of_request (inv : WindowInv state) (id : ℕ) {request : Request}
    (held : ∀ snapshot, request.phase = .holding snapshot →
      snapshot = ⟨state.scenario.values, state.version⟩) :
    WindowInv { state with requests := state.requests.set id request } := by
  refine inv.of_requests (forall_set (fun other thread found _ => inv.held other thread found) ?_)
  intro snapshot holds
  rw [held snapshot holds]
  exact ⟨le_rfl, inv.current.symm⟩

/-- One more count, among those of a block. -/
theorem countsOf_append (taken : List Taken) (count : Taken) (version : ℕ) :
    countsOf (taken ++ [count]) version = countsOf taken version ++
      if count.version = version ∧ count.window = version then [count] else [] := by
  unfold countsOf
  rw [List.filter_append, List.filter_cons, List.filter_nil]
  by_cases mine : count.version = version ∧ count.window = version
  · rw [if_pos (decide_eq_true mine), if_pos mine]
  · rw [if_neg (by simpa using mine), if_neg mine]

theorem modesOf_succ (block : Scenario) (limit : ℤ) (count : ℕ) :
    modesOf block limit (count + 1) =
      modesOf block limit count ++
        [if limit < ((count + 1 : ℕ) : ℤ) then block .thenMode else block .mode] := by
  unfold modesOf
  rw [List.range_succ, List.map_append, List.map_singleton]
  by_cases inside : (count : ℤ) < limit
  · rw [if_pos inside, if_neg (by push_cast; omega)]
  · rw [if_neg inside, if_pos (by push_cast; omega)]

/-- **A request that takes a count**, of its own window unless the block of the window has no count. -/
theorem of_count (inv : WindowInv state) (id : ℕ) {snapshot : Snapshot} {limit : ℤ}
    {request : Request} (version : snapshot.version ≤ state.version)
    (values : snapshot.values = state.blocks snapshot.version)
    (number : state.blocks snapshot.version .failFirstN = .int limit) (positive : 0 < limit)
    (own : ∀ limit, state.window.block .failFirstN = .int limit → 0 < limit →
      snapshot.version = state.window.version ∧ state.window.start = 0)
    (ended : ∀ held, request.phase ≠ .holding held) :
    WindowInv { state with
      failCount := state.failCount + 1
      requests := state.requests.set id request
      taken := state.taken ++ [⟨snapshot.version, state.window.version,
        if limit < ((state.failCount + 1 : ℕ) : ℤ) then snapshot.values .thenMode
        else snapshot.values .mode⟩] } := by
  have requests := inv.of_request id (fun held holds => absurd holds (ended held))
  refine ⟨inv.current, requests.held, inv.counted, fun count member => ?_, inv.opened,
    fun other counts more => ?_, inv.writing, fun block other bound limited => ?_⟩
  · rcases List.mem_append.mp member with before | here
    · exact inv.past count before
    · rw [List.mem_singleton.mp here]
      exact version
  · -- The window is the one of the block that the request holds.
    have mine := (own other counts more).1
    have before := inv.counting other counts more
    dsimp only
    rw [countsOf_append, if_pos ⟨mine, rfl⟩, List.length_append, List.length_singleton, before]
    rfl
  · dsimp only at bound limited ⊢
    rw [countsOf_append]
    by_cases mine : snapshot.version = block ∧ state.window.version = block
    · obtain ⟨rfl, opened⟩ := mine
      have same : limit = other := by
        have both := number.symm.trans limited
        cases both
        rfl
      subst same
      have block : state.window.block .failFirstN = .int limit := by
        rcases inv.opened with ⟨newest, same⟩ | coming
        · rw [same, ← inv.current, ← newest, opened]
          exact number
        · omega
      have count := inv.counting limit block positive
      rw [(own limit block positive).2, Nat.zero_add, opened] at count
      rw [if_pos ⟨rfl, opened⟩, List.map_append, List.length_append, List.length_singleton,
        modesOf_succ, ← inv.exact snapshot.version limit bound limited, ← count, values]
      rfl
    · rw [if_neg mine, List.append_nil]
      exact inv.exact block other bound limited

/-- The writer moves and nothing else does. -/
theorem of_begin (inv : WindowInv state) (block : Accepted) :
    WindowInv { state with
      writer := if block.cfg.names .failFirstN then .resetting block else .updating block } := by
  refine ⟨inv.current, inv.held, inv.counted, inv.past, inv.opened, inv.counting,
    fun other updating named => ?_, inv.exact⟩
  dsimp only at updating
  by_cases counted : block.cfg.names .failFirstN
  · rw [if_pos counted] at updating
    cases updating
  · rw [if_neg counted] at updating
    cases updating
    exact absurd named counted

/-- A block that is not written has no counts. -/
theorem countsOf_future (inv : WindowInv state) {version : ℕ} (future : state.version < version) :
    countsOf state.taken version = [] := by
  refine List.filter_eq_nil_iff.mpr fun count member => ?_
  have bound := inv.past count member
  rw [decide_eq_true_iff]
  rintro ⟨rfl, -⟩
  omega

/-- **The reset opens the window of the block that comes next.** -/
theorem of_reset (inv : WindowInv state) (block : Accepted) : WindowInv (afterReset state block) := by
  refine ⟨inv.current, inv.held, inv.counted, inv.past, .inr rfl, fun limit _ _ => ?_,
    fun other updating _ => ?_, inv.exact⟩
  · show 0 = 0 + (countsOf state.taken (state.version + 1)).length
    rw [inv.countsOf_future (Nat.lt_succ_self _)]
    rfl
  · cases updating
    rfl

/-- What a block gives for `fail_first_n` is an integer. -/
theorem counted_over (inv : WindowInv state) (block : Accepted) :
    ∃ limit, block.cfg.over state.scenario.values .failFirstN = .int limit := by
  rw [Block.over_eq]
  cases given : block.cfg.items.get .failFirstN with
  | none =>
      obtain ⟨limit, number⟩ := inv.counted state.version le_rfl
      rw [inv.current] at number
      exact ⟨limit, number⟩
  | some value =>
      have count := block.counted value given
      cases value with
      | int limit => exact ⟨limit, rfl⟩
      | _ => cases count

/-- Once the block is written, the window that is open is its own. -/
theorem afterUpdate_window (inv : WindowInv state) {block : Accepted} {written : ScenarioConfig}
    (updating : state.writer = .updating block)
    (values : written.values = block.cfg.over state.scenario.values) :
    (afterUpdate state block written).window =
      ⟨state.version + 1, written.values, if block.cfg.names .failFirstN then 0 else state.failCount⟩ := by
  unfold afterUpdate
  by_cases named : block.cfg.names .failFirstN
  · dsimp only
    rw [if_pos named, if_pos named, inv.writing block updating named, values]
  · dsimp only
    rw [if_neg named, if_neg named]

/-- **The block is written, and its window is open with no count.** -/
theorem of_update (inv : WindowInv state) {block : Accepted} {written : ScenarioConfig}
    (updating : state.writer = .updating block)
    (values : written.values = block.cfg.over state.scenario.values) :
    WindowInv (afterUpdate state block written) := by
  have older : ∀ version ≤ state.version,
      Function.update state.blocks (state.version + 1) written.values version =
        state.blocks version := fun version bound => Function.update_of_ne (by omega) _ _
  refine ⟨Function.update_self _ _ _, fun id request found snapshot holds => ?_,
    fun version bound => ?_, fun count member => ?_, .inl ?_, fun limit counts positive => ?_,
    fun _ idle => ?_, fun version limit bound number => ?_⟩
  · obtain ⟨bound, same⟩ := inv.held id request found snapshot holds
    refine ⟨Nat.le_succ_of_le bound, ?_⟩
    rw [same]
    exact (older _ bound).symm
  · show ∃ limit, Function.update state.blocks (state.version + 1) written.values version _ = _
    rcases Nat.lt_or_ge state.version version with new | old
    · have same : version = state.version + 1 := Nat.le_antisymm bound new
      rw [same, Function.update_self, values]
      exact inv.counted_over block
    · rw [older version old]
      exact inv.counted version old
  · exact Nat.le_succ_of_le (inv.past count member)
  · rw [inv.afterUpdate_window updating values]
    exact ⟨rfl, rfl⟩
  · rw [inv.afterUpdate_window updating values] at counts ⊢
    by_cases named : block.cfg.names .failFirstN
    · -- The reset has opened this window, and it is the one that has counted since.
      have opened := inv.writing block updating named
      have before := inv.counting limit (by rw [opened, ← values]; exact counts) positive
      rw [opened] at before
      rw [if_pos named]
      exact before
    · rw [if_neg named]
      show state.failCount = state.failCount + (countsOf state.taken (state.version + 1)).length
      rw [inv.countsOf_future (Nat.lt_succ_self _)]
      rfl
  · cases idle
  · show (countsOf state.taken version).map _ = modesOf
      (Function.update state.blocks (state.version + 1) written.values version) _
      (countsOf state.taken version).length
    rcases Nat.lt_or_ge state.version version with new | old
    · rw [inv.countsOf_future new]
      rfl
    · rw [older version old]
      change Function.update state.blocks (state.version + 1) written.values version _ = _ at number
      rw [older version old] at number
      exact inv.exact version limit old number

end WindowInv

/-! ### One step -/

/-- A request that takes no count. -/
theorem resolve_inactive (state : State) (id : ℕ) (request : Request) {snapshot : Snapshot}
    (inactive : windowActive snapshot.values request.endpoint ≠ .ok true) :
    ∃ phase, (∀ held, phase ≠ .holding held) ∧ resolve state id request snapshot =
      { state with requests := state.requests.set id { request with phase := phase } } := by
  unfold resolve
  split
  · exact ⟨.raised _, fun _ => Phase.noConfusion, rfl⟩
  · split
    · exact ⟨.raised _, fun _ => Phase.noConfusion, rfl⟩
    · exact ⟨.resolved _ _, fun _ => Phase.noConfusion, rfl⟩
  · next active => exact absurd active inactive

/-- A request that takes a count. -/
theorem resolve_active (state : State) (id : ℕ) (request : Request) {snapshot : Snapshot} {limit : ℤ}
    (active : windowActive snapshot.values request.endpoint = .ok true)
    (number : snapshot.values .failFirstN = .int limit) :
    resolve state id request snapshot =
      { state with
        failCount := state.failCount + 1
        requests := state.requests.set id { request with
          phase := .resolved true (if limit < ((state.failCount + 1 : ℕ) : ℤ)
            then snapshot.values .thenMode else snapshot.values .mode) }
        taken := state.taken ++ [⟨snapshot.version, state.window.version,
          if limit < ((state.failCount + 1 : ℕ) : ℤ) then snapshot.values .thenMode
          else snapshot.values .mode⟩] } := by
  unfold resolve
  rw [active]
  simp only [resolveMode_of_windowActive active number]

/-- **One step keeps the invariant.** -/
theorem step_window {state next : State} {action : Action} (own : CountsOwn state action)
    (stepped : step state action = some next) (inv : WindowInv state) : WindowInv next := by
  cases action with
  | arrive endpoint =>
      cases stepped
      refine inv.of_requests (forall_append inv.held ?_)
      intro snapshot holds
      cases holds
  | snapshot id =>
      simp only [step] at stepped
      split at stepped
      · cases stepped
        refine inv.of_request id fun snapshot holds => ?_
        cases holds
        rfl
      · cases stepped
  | resolve id =>
      simp only [step] at stepped
      split at stepped
      · next endpoint snapshot found =>
          cases stepped
          by_cases active : windowActive snapshot.values endpoint = .ok true
          · obtain ⟨bound, values⟩ := inv.held id _ found snapshot rfl
            obtain ⟨limit, number⟩ := inv.counted snapshot.version bound
            rw [resolve_active state id ⟨endpoint, .holding snapshot⟩ active (values ▸ number)]
            exact inv.of_count id bound values number (positive_of_windowActive active (values ▸ number))
              (fun limit counts more => own endpoint snapshot limit found active counts more)
              fun _ => Phase.noConfusion
          · obtain ⟨phase, ended, same⟩ := resolve_inactive state id
              ⟨endpoint, .holding snapshot⟩ active
            rw [same]
            exact inv.of_request id fun held holds => absurd holds (ended held)
      · cases stepped
  | beginWrite block =>
      simp only [step] at stepped
      split at stepped
      · cases stepped
        exact inv.of_begin block
      · cases stepped
  | resetFail =>
      simp only [step] at stepped
      split at stepped
      · cases stepped
        exact inv.of_reset _
      · cases stepped
  | update =>
      simp only [step] at stepped
      split at stepped
      · next block updating =>
          obtain ⟨written, updated, values⟩ := state.scenario.update_of_validate block.passed
          rw [updated] at stepped
          cases stepped
          exact inv.of_update updating values
      · cases stepped

/-- A request that its block does not target takes no count. -/
theorem step_untargeted {state next : State} {id : ℕ} {endpoint : Endpoint} {snapshot : Snapshot}
    (stepped : step state (.resolve id) = some next)
    (found : state.requests[id]? = some ⟨endpoint, .holding snapshot⟩)
    (untargeted : targets snapshot.values endpoint = .ok false) :
    next.failCount = state.failCount ∧ next.taken = state.taken := by
  have inactive : windowActive snapshot.values endpoint ≠ .ok true := by
    intro active
    rw [targets_of_windowActive active] at untargeted
    cases untargeted
  obtain ⟨phase, -, same⟩ := resolve_inactive state id ⟨endpoint, .holding snapshot⟩ inactive
  simp only [step, found, Option.some.injEq] at stepped
  rw [← stepped, same]
  exact ⟨rfl, rfl⟩

/-! ### Every run -/

/-- **The window is exact.** Along every run in which a request that takes a count of the window of a block with
a positive `fail_first_n` holds this very block, and the window opened at 0, the first `fail_first_n` requests of
each block resolve to its `mode` and the later ones to its `then_mode`. A request that its block does not target
takes no count, in any state. -/
theorem fail_window_exact (actions : List Action) (final : State)
    (own : MeetsAlong step CountsOwn State.initial actions)
    (done : run step State.initial actions = some final) :
    WindowExact final ∧
      ∀ id next endpoint snapshot, step final (.resolve id) = some next →
        final.requests[id]? = some ⟨endpoint, .holding snapshot⟩ →
        targets snapshot.values endpoint = .ok false →
          next.failCount = final.failCount ∧ next.taken = final.taken := by
  have inv := run_invariant_of_meets WindowInv CountsOwn (fun _ _ _ => step_window) own done
    WindowInv.initial
  exact ⟨inv.exact, fun _ _ _ _ => step_untargeted⟩

/-! ### Counts that are not their own -/

/-- `{"mode": "error", "fail_first_n": 1}`. -/
def failOnce : Accepted :=
  ⟨⟨[(.mode, .str "error"), (.failFirstN, .int 1)], by decide⟩, rfl, fun value given => by
    cases given
    rfl⟩

/-- `{"mode": "rate_limit"}`. -/
def limited : Accepted := ⟨⟨[(.mode, .str "rate_limit")], by decide⟩, rfl, fun value given => by cases given⟩

/-- An endpoint of the provider. -/
def rpcEndpoint : Endpoint := ⟨.jsonrpc, .http, 18545⟩

/-- A write that inherits `fail_first_n` before a count is taken, and two requests. -/
def inheritedRun : List Action :=
  [.beginWrite failOnce, .resetFail, .update, .beginWrite limited, .update,
    .arrive rpcEndpoint, .snapshot 0, .resolve 0, .arrive rpcEndpoint, .snapshot 1, .resolve 1]

/-- The window of the block that inherits is exact. -/
theorem fail_window_exact_once :
    (run step State.initial inheritedRun).map (fun final => (countsOf final.taken 2).map Taken.mode) =
      some [.str "rate_limit", .str "success"] ∧
    ∀ final, run step State.initial inheritedRun = some final → WindowExact final := by
  refine ⟨rfl, fun final done => (fail_window_exact inheritedRun final ?_ done).1⟩
  refine ⟨trivial, fun _ begun => ?_⟩
  cases begun
  refine ⟨trivial, fun _ reset => ?_⟩
  cases reset
  refine ⟨trivial, fun _ updated => ?_⟩
  cases updated
  refine ⟨trivial, fun _ begun => ?_⟩
  cases begun
  refine ⟨trivial, fun _ updated => ?_⟩
  cases updated
  refine ⟨trivial, fun _ arrived => ?_⟩
  cases arrived
  refine ⟨trivial, fun _ held => ?_⟩
  cases held
  refine ⟨fun endpoint snapshot limit found _ _ _ => ?_, fun _ resolved => ?_⟩
  · cases found
    exact ⟨rfl, rfl⟩
  cases resolved
  refine ⟨trivial, fun _ arrived => ?_⟩
  cases arrived
  refine ⟨trivial, fun _ held => ?_⟩
  cases held
  refine ⟨fun endpoint snapshot limit found _ _ _ => ?_, fun _ _ => trivial⟩
  cases found
  exact ⟨rfl, rfl⟩

/-- A request that holds the block from before takes a count of the new one. -/
def stolenRun : List Action :=
  [.beginWrite failOnce, .resetFail, .update, .arrive rpcEndpoint, .snapshot 0,
    .beginWrite failOnce, .resetFail, .update, .resolve 0,
    .arrive rpcEndpoint, .snapshot 1, .resolve 1]

/-- A block inherits `fail_first_n` after the count of the first block is taken. -/
def spentRun : List Action :=
  [.beginWrite failOnce, .resetFail, .update, .arrive rpcEndpoint, .snapshot 0, .resolve 0,
    .beginWrite limited, .update, .arrive rpcEndpoint, .snapshot 1, .resolve 1]

/-- **A stolen count.** The first request of the second block resolves to `then_mode`: a request with the first
block took the count of the new window, or the second block starts at the count that the first one left. -/
theorem stolen_count :
    (¬ ∀ final, run step State.initial stolenRun = some final → WindowExact final) ∧
      ¬ ∀ final, run step State.initial spentRun = some final → WindowExact final := by
  constructor
  · intro promise
    have wrong : [Value.str "success"] = [.str "error"] := promise _ rfl 2 1 (by decide) rfl
    exact absurd wrong (by decide)
  · intro promise
    have wrong : [Value.str "success"] = [.str "rate_limit"] := promise _ rfl 2 1 (by decide) rfl
    exact absurd wrong (by decide)

end ProviderSimulator.Control.FailWindow
