/-
**What reaches a pool.**

What a pool shows of itself are the replies to its requests, the answers to the scenarios and resets that name it, the
rows of its providers in the reads, and its part of the history. Only what reaches the pool can change that: its own
requests, a scenario for it, a reset of it or of everything, the sweep, and what moves a head that its replies read, by
`POST /advance` or by a scenario reset of a pool of the same chain.

* `Event.within` — an event as the pool sees it. A request is named by its place among the requests of the pool;
* `SamePool` — two states with the same pool, of which the second has no other open requests;
* `applyScenario_within`, `advance_within`, `SamePool.performReset`, `SamePool.serve` — what reaches the pool does the same
  to it in both, and each has a companion about what does not.
-/

import Mathlib.Tactic.Common
import ProviderSimulator.Control.PortGates
import ProviderSimulator.Lib.Noninterference
import ProviderSimulator.Simulator.Reset

namespace ProviderSimulator.Simulator

open ProviderSimulator.Lib ProviderSimulator.Python ProviderSimulator.Domain ProviderSimulator.Control
open ProviderSimulator.Listeners (RawRequest)

/-! ### What reaches a pool -/

/-- The chain whose heads the replies of a chain read. -/
def headChain : Chain → Chain
  | .ln => .btc
  | chain => chain

theorem headOf_chain {chain owner : Chain} {interface : Interface} {name : String}
    (reads : headOf chain interface = some (owner, name)) : owner = headChain chain := by
  unfold headOf at reads
  split at reads <;> cases reads <;> try rfl
  cases chain <;> first | rfl | exact absurd rfl (by assumption)

/-- The providers that the body of a scenario names. -/
def namedKeys (body : Value) : List ProviderKey :=
  match providersOf body with
  | .ok providers => (Value.members providers).filterMap fun member => partitionKey member.1
  | .error _ => []

section

variable (world : World) (name : String) (chain : Chain)

/-- Is it a request of the pool? -/
def OpenRequest.isOf (opened : OpenRequest) : Bool := opened.provider.key.pool = name

/-- The place of a request among the requests of the pool. -/
def placeIn (requests : List OpenRequest) (place : ℕ) : Option ℕ :=
  match requests[place]? with
  | none => none
  | some opened =>
      if opened.isOf name then some ((requests.take place).countP fun other => other.isOf name) else none

/-- Does the body move a head that the pool reads, or show it? -/
def advances (body : Value) : Bool :=
  match planAdvance body with
  | .ok plan => plan.chain = headChain chain
  | .error _ => false

/-- Does a reset reach the pool? -/
def ResetCall.reaches (call : ResetCall) : Value → Bool
  | .none => true
  | .str other =>
      other = name ||
        call.scenario && (world.layout.registry.pools.get other).any fun row => row.chain = headChain chain
  | _ => false

/-- An event as the pool sees it, if it reaches the pool. -/
def Event.within (state : State) : Event → Option Event
  | .arrive key endpoint stamp headers deadline =>
      if key.pool = name then some (.arrive key endpoint stamp headers deadline) else none
  | .serve place request drawn => (placeIn name state.requests place).map fun mine => .serve mine request drawn
  | .statusSent place status => (placeIn name state.requests place).map fun mine => .statusSent mine status
  | .leave place => (placeIn name state.requests place).map .leave
  | .applyScenario settlePorts clock body =>
      if (namedKeys body.value).any (fun key => key.pool = name) then some (.applyScenario settlePorts clock body)
      else none
  | .sweep ttl now clock => some (.sweep ttl now clock)
  | .advance times body => if advances chain body then some (.advance times body) else none
  | .reset call pool settlePorts =>
      if call.reaches world name chain pool then some (.reset call pool settlePorts) else none
  | .getScenario => some .getScenario
  | .getStats => some .getStats
  | .getHistory picked keep =>
      if (world.layout.registry.allProviders.filter picked).all (fun provider => provider.key.pool = name) then
        some (.getHistory picked keep)
      else none
  | .portsClosed => none

/-- The rows of the pool, in a list with a row for each provider. -/
def poolRows {T : Type} (rows : List T) : List T :=
  ((world.layout.registry.allProviders.zip rows).filter fun row => row.1.key.pool = name).map Prod.snd

/-- The part of an answer that is about the pool. -/
def poolPart : Event → Output → List Output
  | .reset _ pool _, output => if pool.eqText name then [output] else []
  | _, .scenarios rows => [.scenarios (poolRows world name rows)]
  | _, .stats rows => [.stats (poolRows world name rows)]
  | _, output => [output]

/-- What the pool shows in the answer to an event. -/
def poolSees (state : State) (event : Event) (output : Output) : List Output :=
  if (event.within world name chain state).isSome then poolPart world name event output else []

/-- No body names the pool beside another one: such a body is refused or accepted as a whole. -/
def Event.Unmixed : Event → Prop
  | .applyScenario _ _ body =>
      (∀ key ∈ namedKeys body.value, key.pool = name) ∨ ∀ key ∈ namedKeys body.value, key.pool ≠ name
  | _ => True

/-- **The same pool in two states**, of which the second has no other open requests. -/
structure SamePool (first second : State) : Prop where
  stored : ∀ key : ProviderKey, key.pool = name → first.stored key = second.stored key
  logs : ∀ key : ProviderKey, key.pool = name → first.logs key = second.logs key
  heads : first.heads (headChain chain) = second.heads (headChain chain)
  requests : second.requests = first.requests.filter fun opened => opened.isOf name
  /-- The open requests of the pool are at providers of its chain. -/
  known : ∀ opened ∈ first.requests, opened.isOf name = true → opened.provider.chain = chain

/-- The gates of the ports of a provider are of its pool. -/
def OwnGates (layout : Layout) (provider : Provider) : Prop :=
  ∀ endpoint ∈ provider.endpoints, ∀ gate, layout.gates.get endpoint.port = some gate →
    gate.provider.pool = provider.key.pool

end

/-! ### Places -/

section

variable {name : String} {requests : List OpenRequest} {place mine : ℕ}

theorem placeIn_eq_some :
    placeIn name requests place = some mine ↔
      ∃ opened, requests[place]? = some opened ∧ opened.isOf name = true ∧
        (requests.take place).countP (fun other => other.isOf name) = mine := by
  unfold placeIn
  cases requests[place]? with
  | none => simp
  | some opened =>
      by_cases own : opened.isOf name = true
      · simp [own]
      · simp [own]

theorem placeIn_eq_none :
    placeIn name requests place = none ↔ ∀ opened, requests[place]? = some opened → opened.isOf name = false := by
  unfold placeIn
  cases requests[place]? with
  | none => simp
  | some opened =>
      by_cases own : opened.isOf name = true
      · simp [own]
      · simp [own]

/-- A list around one of its places. -/
theorem around {opened : OpenRequest} (found : requests[place]? = some opened) :
    requests = requests.take place ++ opened :: requests.drop (place + 1) := by
  obtain ⟨inside, rfl⟩ := List.getElem?_eq_some_iff.mp found
  rw [List.getElem_cons_drop, List.take_append_drop]

/-- The request is at its place among those of the pool. -/
theorem placeIn_get {opened : OpenRequest} (found : requests[place]? = some opened) (own : opened.isOf name = true) :
    (requests.filter fun other => other.isOf name)[(requests.take place).countP fun other => other.isOf name]? =
      some opened := by
  have whole := around found
  generalize requests.take place = before at whole ⊢
  rw [whole, List.filter_append, List.countP_eq_length_filter, List.getElem?_append_right (Nat.le_refl _), Nat.sub_self,
    List.filter_cons_of_pos own]
  rfl

theorem filter_eraseIdx {opened : OpenRequest} (found : requests[place]? = some opened)
    (own : opened.isOf name = true) :
    (requests.eraseIdx place).filter (fun other => other.isOf name) =
      (requests.filter fun other => other.isOf name).eraseIdx
        ((requests.take place).countP fun other => other.isOf name) := by
  have whole := around found
  rw [List.eraseIdx_eq_take_drop_succ, List.filter_append]
  generalize requests.take place = before at whole ⊢
  generalize requests.drop (place + 1) = later at whole ⊢
  rw [whole, List.filter_append, List.filter_cons_of_pos own, List.countP_eq_length_filter,
    List.eraseIdx_append_of_length_le (Nat.le_refl _), Nat.sub_self, List.eraseIdx_cons_zero]

theorem filter_eraseIdx_of_other (other : ∀ opened, requests[place]? = some opened → opened.isOf name = false) :
    (requests.eraseIdx place).filter (fun opened => opened.isOf name) =
      requests.filter fun opened => opened.isOf name := by
  cases found : requests[place]? with
  | none => rw [List.eraseIdx_of_length_le (List.getElem?_eq_none_iff.mp found)]
  | some opened =>
      have foreign : ¬ opened.isOf name = true := by
        rw [other opened found]
        exact Bool.false_ne_true
      have whole := around found
      rw [List.eraseIdx_eq_take_drop_succ, List.filter_append]
      generalize requests.take place = before at whole ⊢
      generalize requests.drop (place + 1) = later at whole ⊢
      rw [whole, List.filter_append, List.filter_cons_of_neg foreign]

/-- Among the requests of the pool, each one keeps its place. -/
theorem placeIn_filter {opened : OpenRequest}
    (found : (requests.filter fun other => other.isOf name)[mine]? = some opened) :
    placeIn name (requests.filter fun other => other.isOf name) mine = some mine := by
  have inside : mine ≤ (requests.filter fun other => other.isOf name).length :=
    (List.getElem?_eq_some_iff.mp found).1.le
  refine placeIn_eq_some.mpr ⟨opened, found, (List.mem_filter.mp (List.mem_of_getElem? found)).2, ?_⟩
  have all : ∀ other ∈ (requests.filter fun other => other.isOf name).take mine, other.isOf name = true :=
    fun other member => (List.mem_filter.mp (List.mem_of_mem_take member)).2
  rw [List.countP_eq_length.mpr all, List.length_take, Nat.min_eq_left inside]

end

/-! ### Providers of a pool -/

section

variable {layout : Layout} {name : String} {first second : Stored}

/-- The pool has the same providers in both. -/
def SameStored (name : String) (first second : Stored) : Prop :=
  ∀ key : ProviderKey, key.pool = name → first key = second key

theorem SameStored.update (same : SameStored name first second) (key : ProviderKey) {one two : ProviderState}
    (both : key.pool = name → one = two) :
    SameStored name (Function.update first key one) (Function.update second key two) := by
  intro other own
  by_cases here : other = key
  · subst here
    rw [Function.update_self, Function.update_self]
    exact both own
  · rw [Function.update_of_ne here, Function.update_of_ne here]
    exact same other own

/-- A write to a provider of another pool. -/
theorem SameStored.foreign (same : SameStored name first second) {key : ProviderKey} (other : key.pool ≠ name)
    (state : ProviderState) : SameStored name (Function.update first key state) second := by
  intro known own
  have apart : known ≠ key := fun here => other (here ▸ own)
  rw [Function.update_of_ne apart]
  exact same known own

theorem SameStored.writeEach (same : SameStored name first second) (write : Provider → ProviderState → ProviderState)
    (providers : List Provider) :
    SameStored name (writeEach write providers first) (Control.writeEach write providers second) := by
  induction providers generalizing first second with
  | nil => exact same
  | cons provider rest ih => exact ih (same.update provider.key fun own => congrArg (write provider) (same _ own))

/-! ### Scenarios -/

theorem mem_namedKeys {body : Value} {providers : List (Key × Value)} (read : providersOf body = .ok providers)
    {key : ProviderKey} :
    key ∈ namedKeys body ↔ ∃ member ∈ Value.members providers, partitionKey member.1 = some key := by
  unfold namedKeys
  rw [read]
  exact List.mem_filterMap

/-- A block that passes is the block of a provider of the registry. -/
theorem checkBlock_named {key : String} {block : Value} {staged : Staged}
    (passed : checkBlock layout first key block = .ok staged) :
    ∃ parts, partitionKey key = some parts ∧ staged.provider.key = parts ∧
      layout.registry.provider parts.pool parts.pid = .ok staged.provider := by
  unfold checkBlock at passed
  split at passed
  · split at passed
    · cases passed
    · next parts split =>
        obtain ⟨provider, found, passed⟩ := ok_of_bind passed
        obtain ⟨updates, -, passed⟩ := ok_of_bind passed
        unfold checkUpdates at passed
        obtain ⟨-, -, passed⟩ := ok_of_bind passed
        obtain ⟨-, -, passed⟩ := ok_of_bind passed
        obtain ⟨-, -, passed⟩ := ok_of_bind passed
        cases passed
        have served := lookUp_eq_ok found
        exact ⟨parts, split, Registry.provider_key served, served⟩
  · cases passed

theorem checkBlocks_named {blocks : List (String × Value)} {staged : List Staged}
    (passed : checkBlocks layout first blocks = .ok staged) :
    ∀ block ∈ staged, layout.registry.provider block.provider.key.pool block.provider.key.pid = .ok block.provider ∧
      ∃ member ∈ blocks, partitionKey member.1 = some block.provider.key := by
  induction blocks generalizing staged with
  | nil =>
      cases passed
      exact nofun
  | cons member rest ih =>
      obtain ⟨block, checked, passed⟩ := ok_of_bind passed
      obtain ⟨others, later, passed⟩ := ok_of_bind passed
      cases passed
      obtain ⟨parts, split, key, served⟩ := checkBlock_named checked
      intro found among
      rcases List.mem_cons.mp among with rfl | among
      · rw [key]
        exact ⟨served, member, List.mem_cons_self, split⟩
      · obtain ⟨known, other, there, named⟩ := ih later found among
        exact ⟨known, other, List.mem_cons_of_mem _ there, named⟩

theorem checkBody_named {body : Value} {staged : List Staged} (passed : checkBody layout first body = .ok staged) :
    ∀ block ∈ staged, layout.registry.provider block.provider.key.pool block.provider.key.pid = .ok block.provider ∧
      block.provider.key ∈ namedKeys body := by
  obtain ⟨providers, read, checked⟩ := ok_of_bind passed
  intro block among
  obtain ⟨served, named⟩ := checkBlocks_named checked block among
  exact ⟨served, (mem_namedKeys read).mpr named⟩

/-- The check of a body for the pool reads nothing of the other pools. -/
theorem checkBody_within (same : SameStored name first second) {body : Value}
    (own : ∀ key ∈ namedKeys body, key.pool = name) : checkBody layout first body = checkBody layout second body := by
  have block : ∀ (key : String) (value : Value), (∀ parts, partitionKey key = some parts → parts.pool = name) →
      checkBlock layout first key value = checkBlock layout second key value := by
    intro key value mine
    unfold checkBlock
    split
    · split
      · rfl
      · next parts split =>
          cases found : lookUp layout parts with
          | error raised => rfl
          | ok provider =>
              rw [ok_bind, ok_bind]
              refine bind_congr fun updates => ?_
              have key := Registry.provider_key (lookUp_eq_ok found)
              unfold checkUpdates
              rw [same provider.key (by rw [key]; exact mine parts split)]
    · rfl
  unfold checkBody
  cases read : providersOf body with
  | error raised => rfl
  | ok providers =>
      rw [ok_bind, ok_bind]
      have mine : ∀ member ∈ Value.members providers, ∀ parts, partitionKey member.1 = some parts → parts.pool = name :=
        fun member among parts split => own parts ((mem_namedKeys read).mpr ⟨member, among, split⟩)
      generalize Value.members providers = blocks at mine
      induction blocks with
      | nil => rfl
      | cons member rest ih =>
          obtain ⟨here, later⟩ := List.forall_mem_cons.mp mine
          unfold checkBlocks
          rw [block _ _ here, ih later]

end

section

variable {layout : Layout} {name : String} {first second : Stored}

/-- The ports of the pool ask its own providers for their wishes. -/
theorem portWishes_within (same : SameStored name first second) {endpoints : List Endpoint}
    (gates : ∀ endpoint ∈ endpoints, ∀ gate, layout.gates.get endpoint.port = some gate → gate.provider.pool = name) :
    portWishes layout first endpoints = portWishes layout second endpoints := by
  induction endpoints with
  | nil => rfl
  | cons endpoint rest ih =>
      obtain ⟨here, later⟩ := List.forall_mem_cons.mp gates
      unfold portWishes
      cases found : layout.gates.get endpoint.port with
      | none => exact ih later
      | some gate =>
          dsimp only
          rw [same gate.provider (here gate found), ih later]

theorem writeAll_within (clock : ProviderKey → ℚ) {staged : List Staged}
    (own : ∀ block ∈ staged, block.provider.key.pool = name) (gates : ∀ block ∈ staged, OwnGates layout block.provider)
    (same : SameStored name first second) (written : Written) :
    (writeAll layout clock staged first written).2 = (writeAll layout clock staged second written).2 ∧
      SameStored name (writeAll layout clock staged first written).1
        (writeAll layout clock staged second written).1 := by
  induction staged generalizing first second written with
  | nil => exact ⟨rfl, same⟩
  | cons block rest ih =>
      obtain ⟨mine, others⟩ := List.forall_mem_cons.mp own
      obtain ⟨gated, later⟩ := List.forall_mem_cons.mp gates
      have write := congrArg (writeProvider block (clock block.provider.key)) (same block.provider.key mine)
      have next := same.update block.provider.key fun _ => congrArg Write.state write
      have wishes := portWishes_within next fun endpoint member gate found =>
        (gated endpoint member gate found).trans mine
      unfold writeAll
      dsimp only
      rw [congrArg Write.failed write, wishes]
      cases (writeProvider block (clock block.provider.key) (second block.provider.key)).failed with
      | some raised => exact ⟨rfl, next⟩
      | none =>
          dsimp only
          cases portWishes layout _ block.provider.endpoints with
          | error error => exact ⟨rfl, next⟩
          | ok wishes => exact ih others later next _

/-- Blocks of other pools write nothing of the pool. -/
theorem writeAll_foreign (clock : ProviderKey → ℚ) {staged : List Staged}
    (other : ∀ block ∈ staged, block.provider.key.pool ≠ name) (same : SameStored name first second)
    (written : Written) : SameStored name (writeAll layout clock staged first written).1 second := by
  induction staged generalizing first written with
  | nil => exact same
  | cons block rest ih =>
      obtain ⟨foreign, others⟩ := List.forall_mem_cons.mp other
      have next := same.foreign foreign
        (writeProvider block (clock block.provider.key) (first block.provider.key)).state
      unfold writeAll
      dsimp only
      split
      · exact next
      · split
        · exact next
        · exact ih others next _

/-- **A scenario for the pool.** -/
theorem applyScenario_within (same : SameStored name first second) (settlePorts : List Wish → String)
    (clock : ProviderKey → ℚ) {body : Json} (own : ∀ key ∈ namedKeys body.value, key.pool = name)
    (gates : ∀ provider : Provider, layout.registry.provider provider.key.pool provider.key.pid = .ok provider →
      provider.key.pool = name → OwnGates layout provider) :
    (applyScenario layout settlePorts clock first body).answer =
        (applyScenario layout settlePorts clock second body).answer ∧
      SameStored name (applyScenario layout settlePorts clock first body).state
        (applyScenario layout settlePorts clock second body).state := by
  unfold applyScenario
  rw [checkBody_within same own]
  cases checked : checkBody layout second body.value with
  | error raised => cases raised <;> exact ⟨rfl, same⟩
  | ok staged =>
      have named := checkBody_named checked
      have mine : ∀ block ∈ staged, block.provider.key.pool = name := fun block member => own _ (named block member).2
      obtain ⟨ends, next⟩ := writeAll_within clock mine
        (fun block member => gates _ (named block member).1 (mine block member)) same {}
      dsimp only
      generalize writeAll layout clock staged first {} = one at ends next
      generalize writeAll layout clock staged second {} = two at ends next
      obtain ⟨state, ended⟩ := one
      obtain ⟨state', ended'⟩ := two
      dsimp only at ends next
      subst ends
      cases ended with
      | error raised => cases raised <;> exact ⟨rfl, next⟩
      | ok written =>
          dsimp only
          split
          · exact ⟨rfl, next⟩
          · exact ⟨rfl, next⟩

/-- **A scenario for other pools.** -/
theorem applyScenario_foreign (same : SameStored name first second) (settlePorts : List Wish → String)
    (clock : ProviderKey → ℚ) {body : Json} (other : ∀ key ∈ namedKeys body.value, key.pool ≠ name) :
    SameStored name (applyScenario layout settlePorts clock first body).state second := by
  unfold applyScenario
  cases checked : checkBody layout first body.value with
  | error raised => cases raised <;> exact same
  | ok staged =>
      have next : SameStored name (writeAll layout clock staged first {}).1 second :=
        writeAll_foreign clock (fun block member => other _ (checkBody_named checked block member).2) same {}
      dsimp only
      generalize writeAll layout clock staged first {} = one at next
      obtain ⟨state, ended⟩ := one
      cases ended with
      | error raised => cases raised <;> exact next
      | ok written =>
          dsimp only
          split <;> exact next

end

/-! ### Heads -/

section

variable {chain : Chain} {first second : Heads} (host : Host) (clock : HeadClock) (times : AdvanceTimes)

theorem advances_eq_true {body : Value} :
    advances chain body = true ↔ ∃ plan, planAdvance body = .ok plan ∧ plan.chain = headChain chain := by
  unfold advances
  cases planAdvance body with
  | error raised => simp
  | ok plan => simp

theorem moveHeads_elsewhere (plan : AdvancePlan) {owner : Chain} (other : plan.chain ≠ owner) (heads : Heads) :
    (moveHeads host clock times plan heads).1 owner = heads owner := by
  unfold moveHeads
  cases plan.headName with
  | none => rfl
  | some name =>
      funext known
      exact if_neg fun same => other same.1.symm

theorem moveHeads_within (plan : AdvancePlan) (same : first plan.chain = second plan.chain) :
    (moveHeads host clock times plan first).2 = (moveHeads host clock times plan second).2 ∧
      (moveHeads host clock times plan first).1 plan.chain = (moveHeads host clock times plan second).1 plan.chain := by
  unfold moveHeads
  cases plan.headName with
  | none => exact ⟨rfl, same⟩
  | some name =>
      have head := congrFun same name
      dsimp only
      rw [head]
      refine ⟨rfl, funext fun known => ?_⟩
      unfold Heads.set
      rw [congrFun same known]

/-- **A move of the heads that the pool reads.** -/
theorem advance_within (same : first (headChain chain) = second (headChain chain)) {body : Value}
    (moves : advances chain body = true) :
    (advance host clock times first body).2 = (advance host clock times second body).2 ∧
      (advance host clock times first body).1 (headChain chain) =
        (advance host clock times second body).1 (headChain chain) := by
  obtain ⟨plan, planned, here⟩ := advances_eq_true.mp moves
  unfold advance
  rw [planned]
  rw [← here] at same ⊢
  obtain ⟨ends, next⟩ := moveHeads_within host clock times plan same
  dsimp only
  generalize moveHeads host clock times plan first = one at ends next
  generalize moveHeads host clock times plan second = two at ends next
  obtain ⟨heads, ended⟩ := one
  obtain ⟨heads', ended'⟩ := two
  dsimp only at ends next
  subst ends
  cases ended with
  | error error => exact ⟨rfl, next⟩
  | ok done =>
      refine ⟨?_, next⟩
      show readHeads clock times plan heads = readHeads clock times plan heads'
      unfold readHeads
      rw [next]

/-- **A move of other heads**, and a call that moves none. -/
theorem advance_elsewhere (heads : Heads) {body : Value} (moves : advances chain body = false) :
    (advance host clock times heads body).1 (headChain chain) = heads (headChain chain) := by
  unfold advance
  cases planned : planAdvance body with
  | error raised => cases raised <;> rfl
  | ok plan =>
      have other : plan.chain ≠ headChain chain := by
        intro same
        rw [advances_eq_true.mpr ⟨plan, planned, same⟩] at moves
        cases moves
      have kept := moveHeads_elsewhere host clock times plan other heads
      dsimp only
      generalize moveHeads host clock times plan heads = moved at kept
      obtain ⟨heads', ended⟩ := moved
      cases ended <;> exact kept

end

/-! ### Resets -/

section

variable {world : World} {name : String} {chain : Chain} {first second : State}

theorem clearEach_within {one two : ProviderKey → CallLog}
    (same : ∀ key : ProviderKey, key.pool = name → one key = two key) (providers : List Provider) :
    ∀ key : ProviderKey, key.pool = name → clearEach providers one key = clearEach providers two key := by
  induction providers generalizing one two with
  | nil => exact same
  | cons provider rest ih =>
      refine ih fun key own => ?_
      by_cases here : key = provider.key
      · subst here
        rw [Function.update_self, Function.update_self, same _ own]
      · rw [Function.update_of_ne here, Function.update_of_ne here, same key own]

theorem resetHeads_within {one two : Heads} {owner : Chain} (same : one owner = two owner) (moved : List Chain) :
    resetHeads moved one owner = resetHeads moved two owner := by
  funext known
  unfold resetHeads
  rw [same]

theorem resetWithin_eq (world : World) (state : State) (call : ResetCall) (whole : Bool) (scope : ResetScope) :
    let done := state.resetWithin world call whole scope
    done.stored = (if call.scenario then writeEach resetProvider scope.providers state.stored else state.stored) ∧
      done.logs = (if call.history then clearEach scope.providers state.logs else state.logs) ∧
      done.heads = (if call.scenario then resetHeads scope.chains state.heads else state.heads) ∧
      done.requests = state.requests := by
  cases call <;> exact ⟨rfl, rfl, rfl, rfl⟩

/-- **Every reset does the same to the pool in both.** -/
theorem SamePool.performReset (same : SamePool name chain first second) (call : ResetCall) (pool : Value)
    (settlePorts : List Wish → String) :
    SamePool name chain (first.performReset world call pool settlePorts).1
      (second.performReset world call pool settlePorts).1 := by
  cases found : scopeOf world.layout pool with
  | error refusal =>
      unfold State.performReset
      rw [found]
      exact same
  | ok scope =>
      obtain ⟨_, done⟩ := performReset_eq world found first call settlePorts
      obtain ⟨_, done'⟩ := performReset_eq world found second call settlePorts
      obtain ⟨stored, logs, heads, requests⟩ := resetWithin_eq world first call pool.isNone scope
      obtain ⟨stored', logs', heads', requests'⟩ := resetWithin_eq world second call pool.isNone scope
      rw [done, done']
      refine ⟨?_, ?_, ?_, ?_, ?_⟩
      · rw [stored, stored']
        split
        · exact SameStored.writeEach same.stored resetProvider scope.providers
        · exact same.stored
      · rw [logs, logs']
        split
        · exact clearEach_within same.logs scope.providers
        · exact same.logs
      · rw [heads, heads']
        split
        · exact resetHeads_within same.heads scope.chains
        · exact same.heads
      · rw [requests, requests']
        exact same.requests
      · rw [requests]
        exact same.known

/-- A reset that does not reach the pool. -/
theorem SamePool.reset_elsewhere (same : SamePool name chain first second) {call : ResetCall} {pool : Value}
    (beyond : call.reaches world name chain pool = false) (settlePorts : List Wish → String) :
    SamePool name chain (first.performReset world call pool settlePorts).1 second := by
  cases found : scopeOf world.layout pool with
  | error refusal =>
      unfold State.performReset
      rw [found]
      exact same
  | ok scope =>
      obtain ⟨_, done⟩ := performReset_eq world found first call settlePorts
      obtain ⟨stored, logs, heads, requests⟩ := resetWithin_eq world first call pool.isNone scope
      have elsewhere : (∀ key ∈ keysOf scope.providers, key.pool ≠ name) ∧
          (call.scenario = true → headChain chain ∉ scope.chains) := by
        unfold ResetCall.reaches at beyond
        unfold scopeOf at found
        split at found
        · cases beyond
        · next other =>
            dsimp only at beyond
            simp only [Bool.or_eq_false_iff, decide_eq_false_iff_not, Bool.and_eq_false_iff] at beyond
            split at found
            · next row here =>
                cases found
                rw [here, Option.any_some, decide_eq_false_iff_not] at beyond
                refine ⟨fun key member => ?_, fun scenario member => ?_⟩
                · obtain ⟨provider, there, rfl⟩ := List.mem_map.mp member
                  rw [(mem_providersOf there).1]
                  exact beyond.1
                · rcases beyond.2 with off | apart
                  · rw [scenario] at off
                    cases off
                  · exact apart (List.mem_singleton.mp member).symm
            · cases found
        · cases found
      obtain ⟨foreign, unread⟩ := elsewhere
      rw [done]
      refine ⟨fun key own => ?_, fun key own => ?_, ?_, requests ▸ same.requests, requests ▸ same.known⟩
      · rw [stored, ← same.stored key own]
        split
        · exact writeEach_of_not_mem (fun member => foreign key member own) first.stored
        · rfl
      · rw [logs, ← same.logs key own]
        split
        · exact clearEach_of_not_mem (fun member => foreign key member own) first.logs
        · rfl
      · rw [heads, ← same.heads]
        split
        · next scenario =>
            funext known
            exact if_neg fun both => unread scenario both.1
        · rfl

end

section

variable {world : World} {name : String} {chain : Chain} {first second : State}

/-- The gates of the providers of the registry are of their pools. -/
def World.OwnsGates (world : World) : Prop :=
  ∀ provider : Provider, world.layout.registry.provider provider.key.pool provider.key.pid = .ok provider →
    OwnGates world.layout provider

theorem resetEach_within {providers : List Provider} (own : ∀ provider ∈ providers, provider.key.pool = name)
    (gates : ∀ provider ∈ providers, OwnGates world.layout provider) {one two : State}
    (same : SameStored name one.stored two.stored) (call : ResetCall) (wishes : List Wish) :
    (resetEach world.layout call providers one wishes).2 = (resetEach world.layout call providers two wishes).2 := by
  induction providers generalizing one two wishes with
  | nil => rfl
  | cons provider rest ih =>
      obtain ⟨mine, others⟩ := List.forall_mem_cons.mp own
      obtain ⟨gated, later⟩ := List.forall_mem_cons.mp gates
      have next : SameStored name (one.resetOne call provider).stored (two.resetOne call provider).stored := by
        unfold State.resetOne
        split
        · exact same.update provider.key fun own => congrArg (resetProvider provider) (same _ own)
        · exact same
      have cleared : ∀ state : State, (state.clearOne call provider).stored = state.stored := by
        intro state
        unfold State.clearOne
        split <;> rfl
      have wished := portWishes_within next fun endpoint member gate found =>
        (gated endpoint member gate found).trans mine
      unfold resetEach
      dsimp only
      rw [wished]
      split
      · rfl
      · refine ih others later ?_ _
        rw [cleared, cleared]
        exact next

/-- **A reset of the pool is answered alike.** -/
theorem SamePool.reset_answer (same : SamePool name chain first second) (owns : world.OwnsGates)
    (distinct : Distinct world.layout.registry.pools) (call : ResetCall) (settlePorts : List Wish → String) :
    (first.performReset world call (.str name) settlePorts).2 =
      (second.performReset world call (.str name) settlePorts).2 := by
  unfold State.performReset
  cases found : scopeOf world.layout (.str name) with
  | error refusal => rfl
  | ok scope =>
      have listed : ∀ provider ∈ scope.providers, provider.key.pool = name ∧
          world.layout.registry.provider provider.key.pool provider.key.pid = .ok provider := by
        unfold scopeOf at found
        dsimp only at found
        split at found
        · next row here =>
            cases found
            intro provider member
            refine ⟨(mem_providersOf member).1, (mem_allProviders_iff distinct provider).mp ?_⟩
            exact List.mem_flatMap.mpr ⟨(name, row), Dict.get_mem here, member⟩
        · cases found
      have moved : ∀ state : State, ∃ started : State, (if call.scenario then
          { state with heads := resetHeads scope.chains state.heads } else state) = started ∧
          started.stored = state.stored := by
        intro state
        split <;> exact ⟨_, rfl, rfl⟩
      obtain ⟨begun, moves, stored⟩ := moved first
      obtain ⟨begun', moves', stored'⟩ := moved second
      have wishes : (resetEach world.layout call scope.providers begun []).2 =
          (resetEach world.layout call scope.providers begun' []).2 := by
        refine resetEach_within (fun provider member => (listed provider member).1)
          (fun provider member => owns provider (listed provider member).2) ?_ call []
        rw [stored, stored']
        exact same.stored
      dsimp only
      rw [moves, moves']
      generalize resetEach world.layout call scope.providers begun [] = one at wishes
      generalize resetEach world.layout call scope.providers begun' [] = two at wishes
      obtain ⟨state, ended⟩ := one
      obtain ⟨state', ended'⟩ := two
      dsimp only at wishes
      subst wishes
      cases ended <;> rfl

/-! ### Requests -/

/-- A request reads the heads of its chain only. -/
theorem flowOf_within {one two : Heads} (provider : Provider)
    (same : one (headChain provider.chain) = two (headChain provider.chain)) (endpoint : Endpoint)
    (state : ProviderState) (request : RawRequest) (drawn : Drawn) :
    flowOf world one provider endpoint state request drawn =
      flowOf world two provider endpoint state request drawn := by
  unfold flowOf
  dsimp only
  split
  · rfl
  · next owner head reads =>
      rw [headOf_chain reads, same]

theorem SamePool.serve (same : SamePool name chain first second) {opened : OpenRequest}
    (own : opened.isOf name = true) (open_ : opened ∈ first.requests) (request : RawRequest) (drawn : Drawn) :
    (first.serve world opened request drawn).2 = (second.serve world opened request drawn).2 ∧
      SamePool name chain (first.serve world opened request drawn).1 (second.serve world opened request drawn).1 := by
  have mine : opened.provider.key.pool = name := of_decide_eq_true own
  have heads : first.heads (headChain opened.provider.chain) = second.heads (headChain opened.provider.chain) := by
    rw [same.known opened open_ own]
    exact same.heads
  unfold State.serve
  dsimp only
  rw [same.stored _ mine, same.logs _ mine, flowOf_within opened.provider heads]
  refine ⟨rfl, ?_, ?_, same.heads, same.requests, same.known⟩
  · exact SameStored.update same.stored opened.provider.key fun _ => rfl
  · intro key own
    dsimp only
    by_cases here : key = opened.provider.key
    · subst here
      rw [Function.update_self, Function.update_self]
    · rw [Function.update_of_ne here, Function.update_of_ne here]
      exact same.logs key own

theorem SamePool.serve_foreign (same : SamePool name chain first second) {opened : OpenRequest}
    (other : opened.isOf name = false) (request : RawRequest) (drawn : Drawn) :
    SamePool name chain (first.serve world opened request drawn).1 second := by
  have foreign : opened.provider.key.pool ≠ name := of_decide_eq_false other
  refine ⟨?_, fun key own => ?_, same.heads, same.requests, same.known⟩
  · exact SameStored.foreign same.stored foreign _
  · have apart : key ≠ opened.provider.key := fun here => foreign (here ▸ own)
    exact (Function.update_of_ne apart _ _).trans (same.logs key own)

/-- An operation on the log of a provider of the pool. -/
theorem SamePool.onLog (world : World) (same : SamePool name chain first second) (key : ProviderKey) (op : CallLog.Op) :
    SamePool name chain (first.onLog world key op) (second.onLog world key op) := by
  refine ⟨same.stored, fun known own => ?_, same.heads, same.requests, same.known⟩
  show Function.update first.logs key _ known = Function.update second.logs key _ known
  by_cases here : known = key
  · subst here
    rw [Function.update_self, Function.update_self, same.logs _ own]
  · rw [Function.update_of_ne here, Function.update_of_ne here]
    exact same.logs known own

theorem SamePool.onLog_foreign (world : World) (same : SamePool name chain first second) {key : ProviderKey}
    (other : key.pool ≠ name) (op : CallLog.Op) : SamePool name chain (first.onLog world key op) second := by
  refine ⟨same.stored, fun known own => ?_, same.heads, same.requests, same.known⟩
  have apart : known ≠ key := fun here => other (here ▸ own)
  exact (Function.update_of_ne apart _ _).trans (same.logs known own)

theorem SamePool.arrive (same : SamePool name chain first second) {provider : Provider} (own : provider.key.pool = name)
    (on : provider.chain = chain) (endpoint : Endpoint) (stamp : Stamp) (headers : Headers)
    (deadline : Value) :
    SamePool name chain (first.arrive world provider endpoint stamp headers deadline)
      (second.arrive world provider endpoint stamp headers deadline) := by
  have noted := same.onLog world provider.key (arrivalOp endpoint stamp headers deadline)
  refine ⟨noted.stored, noted.logs, noted.heads, ?_, fun opened member mine => ?_⟩
  · show second.requests ++ _ = (first.requests ++ _).filter _
    have here : (⟨provider, endpoint, (first.logs provider.key).rows.length⟩ : OpenRequest).isOf name = true :=
      decide_eq_true own
    rw [List.filter_append, List.filter_cons_of_pos here, List.filter_nil, same.requests, same.logs _ own]
  · rcases List.mem_append.mp member with old | new
    · exact same.known opened old mine
    · rw [List.mem_singleton.mp new]
      exact on

theorem SamePool.arrive_foreign (same : SamePool name chain first second) {provider : Provider}
    (other : provider.key.pool ≠ name) (endpoint : Endpoint) (stamp : Stamp) (headers : Headers)
    (deadline : Value) :
    SamePool name chain (first.arrive world provider endpoint stamp headers deadline) second := by
  have noted := same.onLog_foreign world other (arrivalOp endpoint stamp headers deadline)
  have foreign : ∀ ref, ¬ (⟨provider, endpoint, ref⟩ : OpenRequest).isOf name = true := fun ref mine =>
    other (of_decide_eq_true mine)
  refine ⟨noted.stored, noted.logs, noted.heads, ?_, fun opened member mine => ?_⟩
  · show second.requests = (first.requests ++ _).filter _
    rw [List.filter_append, List.filter_cons_of_neg (foreign _), List.filter_nil, List.append_nil, same.requests]
  · rcases List.mem_append.mp member with old | new
    · exact same.known opened old mine
    · rw [List.mem_singleton.mp new] at mine
      exact absurd mine (foreign _)

end

end ProviderSimulator.Simulator
