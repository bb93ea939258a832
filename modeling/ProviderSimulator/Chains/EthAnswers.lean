/-
**When Ethereum answers.**

Three methods of Ethereum compute their result. `eth_blockNumber` and `eth_getBlockByNumber` write a height
as a hexadecimal number, and only a whole number has such a format. `eth_getBlockByNumber` looks its first
parameter up in a table, so this parameter must be hashable. `eth_getLogs` of a provider whose index lags
compares a height with the end of the index. `Shapes` holds what they need.

* `gives_iff` — the chain answers exactly the requests whose entry and whose values have these shapes.
-/

import Mathlib.Tactic.Common
import ProviderSimulator.Chains.Answers

namespace ProviderSimulator.Chains.Eth

open ProviderSimulator.Lib ProviderSimulator.Python ProviderSimulator.Domain ProviderSimulator.Stubs

variable {host : Host} {quirks : Quirks} {head : ℤ} {blocksBehind method params result : Value}

/-! ### The three stages -/

theorem numberStage_gives {given : Bool} :
    Gives (numberStage host head blocksBehind method given result) ↔
      (method = .str "eth_blockNumber" → given = false → blocksBehind.integer.isSome = true) := by
  unfold numberStage
  split
  · next asked =>
      rw [Bool.and_eq_true, Value.eqText_iff, Bool.not_eq_true'] at asked
      rw [gives_bind]
      constructor
      · rintro ⟨left, gave, later⟩ _ _
        rw [← (integer_of_sub gave).1]
        exact hexUpper_gives.mp later
      · intro whole
        obtain ⟨number, gave⟩ := sub_of_integer host head (whole asked.1 asked.2)
        exact ⟨_, gave, hexUpper_gives.mpr rfl⟩
  · next other =>
      refine ⟨fun _ same absent => absurd ?_ other, fun _ => gives_ok _⟩
      rw [same, absent]
      rfl

/-- A method other than `eth_blockNumber` keeps its result in the first stage. -/
theorem numberStage_eq {given : Bool} (other : method ≠ .str "eth_blockNumber") :
    numberStage host head blocksBehind method given result = .ok result := by
  unfold numberStage
  rw [if_neg]
  · rfl
  · rw [Bool.and_eq_true, Value.eqText_iff]
    exact fun both => other both.1

theorem aboveHead_gives {number : ℤ} :
    Gives (aboveHead host blocksBehind (.int number) params) ↔ blocksBehind.eqInt 0 = true ∨ Gives params.first := by
  unfold aboveHead
  split
  · next level => exact ⟨fun _ => .inl level, fun _ => gives_ok _⟩
  · next lagging =>
      refine (gives_bind_of_forall fun first _ => ?_).trans ⟨.inr, fun either => either.resolve_left lagging⟩
      split
      · exact less_gives.mpr ⟨rfl, rfl⟩
      · exact gives_ok _

/-- A block above the head is named by a number or by a text. -/
theorem hashable_of_aboveHead {number : ℤ} {first : Value} (here : params.first = .ok first)
    (above : aboveHead host blocksBehind (.int number) params = .ok true) : first.hashable = true := by
  unfold aboveHead at above
  rw [here] at above
  split at above
  · cases above
  · cases first with
    | list items => cases above
    | dict items => cases above
    | _ => rfl

/-- Any value that can be hashed names a block. -/
theorem namedNumber_gives {number : ℤ} {wanted : Value} :
    Gives (namedNumber host (.int number) wanted) ↔ wanted.hashable = true := by
  have written : ∀ number, hexUpper (.int number) =
      .ok (.str ("0x" ++ String.ofList ((hexDigits number).map Char.toUpper))) := fun _ => rfl
  have next : host.add (.int number) (.int 1) = .ok (.int (number + 1)) := rfl
  have previous : host.sub (.int number) (.int 1) = .ok (.int (number + -1)) := rfl
  unfold namedNumber
  simp only [next, previous, written, ok_bind]
  exact (gives_bind_of_forall fun found _ => gives_ok _).trans (tableGet_gives _)

/-- **`eth_getBlockByNumber`** reads a whole `blocks_behind`, and a first parameter that can be hashed. -/
theorem getBlockByNumber_gives {entries : List (Key × Value)} :
    Gives (getBlockByNumber host head blocksBehind params (.dict entries)) ↔
      blocksBehind.integer.isSome = true ∧ ∃ first, params.first = .ok first ∧ first.hashable = true := by
  unfold getBlockByNumber
  rw [gives_bind]
  constructor
  · rintro ⟨left, gave, later⟩
    obtain ⟨_, hex, later⟩ := gives_bind.mp later
    have whole := hexUpper_gives.mp ⟨_, hex⟩
    rw [(integer_of_sub gave).1] at whole
    obtain ⟨number, again⟩ := sub_of_integer host head whole
    obtain rfl : left = .int number := Except.ok.inj (gave.symm.trans again)
    refine ⟨whole, ?_⟩
    obtain ⟨above, asked, later⟩ := gives_bind.mp later
    cases above with
    | true =>
        rcases aboveHead_gives.mp ⟨_, asked⟩ with level | ⟨first, here⟩
        · unfold aboveHead at asked
          rw [if_pos level] at asked
          cases asked
        · exact ⟨first, here, hashable_of_aboveHead here asked⟩
    | false =>
        obtain ⟨first, here, later⟩ := gives_bind.mp later
        obtain ⟨_, named, -⟩ := gives_bind.mp later
        exact ⟨first, here, namedNumber_gives.mp ⟨_, named⟩⟩
  · rintro ⟨whole, first, here, hashable⟩
    obtain ⟨number, gave⟩ := sub_of_integer host head whole
    obtain ⟨hex, written⟩ : Gives (hexUpper (.int number)) := hexUpper_gives.mpr rfl
    obtain ⟨above, asked⟩ : Gives (aboveHead host blocksBehind (.int number) params) :=
      aboveHead_gives.mpr (.inr ⟨first, here⟩)
    obtain ⟨named, found⟩ : Gives (namedNumber host (.int number) first) :=
      namedNumber_gives.mpr hashable
    refine ⟨_, gave, ?_⟩
    rw [written, ok_bind, asked, ok_bind, here, ok_bind, found]
    split
    · exact gives_ok _
    · exact gives_ok _

/-- Does the filter name a block up to which `eth_getLogs` searches? -/
def namesBlock (host : Host) : Value → Bool
  | .dict filter =>
      match (Dict.get filter (.text "toBlock")).getD (.str "latest") with
      | .str raw => raw ∈ ["latest", "safe", "finalized", "pending"] || (parseHeight host raw).isSome
      | .int _ => true
      | .bool _ => true
      | _ => false
  | _ => false

/-- The block that a filter names is a number. -/
theorem resolveBlockTag_eq (host : Host) {headInt first : Value} (truthy : params.truthy = true)
    (here : params.first = .ok first) (number : headInt.number.isSome = true) :
    ∃ tag, resolveBlockTag host params "toBlock" headInt = .ok tag ∧ tag.isSome = namesBlock host first ∧
      ∀ block, tag = some block → block.number.isSome = true := by
  have parsed : ∀ height : Option ℤ, ∀ block, height.map Value.int = some block →
      block.number.isSome = true := by
    intro height block same
    obtain ⟨found, -, rfl⟩ := Option.map_eq_some_iff.mp same
    rfl
  unfold resolveBlockTag namesBlock
  rw [truthy, here]
  cases first with
  | dict filter =>
      simp only [Bool.not_true, Bool.false_eq_true, if_false, ok_bind]
      cases (Dict.get filter (.text "toBlock")).getD (.str "latest") with
      | str raw =>
          by_cases tagged : raw ∈ ["latest", "safe", "finalized", "pending"]
          · refine ⟨some headInt, if_pos tagged, ?_, fun block same => Option.some.inj same ▸ number⟩
            show true = (decide (raw ∈ ["latest", "safe", "finalized", "pending"]) || _)
            rw [decide_eq_true tagged]
            rfl
          · refine ⟨_, if_neg tagged, ?_, parsed _⟩
            show _ = (decide (raw ∈ ["latest", "safe", "finalized", "pending"]) || _)
            rw [decide_eq_false tagged, Option.isSome_map]
            rfl
      | int raw => exact ⟨_, rfl, rfl, fun block same => Option.some.inj same ▸ rfl⟩
      | bool raw => exact ⟨_, rfl, rfl, fun block same => Option.some.inj same ▸ rfl⟩
      | _ => exact ⟨none, rfl, rfl, nofun⟩
  | _ => exact ⟨none, rfl, rfl, nofun⟩

/-- A filter whose test always gives a value gives one. -/
theorem filterM_gives {T : Type} {test : T → Except PyError Bool} (gives : ∀ item, Gives (test item))
    (items : List T) : Gives (items.filterM test) := by
  have each : ∀ kept : List T, Gives (List.filterAuxM test items kept) := by
    induction items with
    | nil => exact fun kept => gives_ok _
    | cons item rest ih =>
        intro kept
        obtain ⟨held, tested⟩ := gives item
        exact gives_bind.mpr ⟨held, tested, ih _⟩
  obtain ⟨kept, gave⟩ := each []
  exact gives_bind.mpr ⟨kept, gave, gives_ok _⟩

theorem entryBlocknumLe_gives (host : Host) {threshold : Value} (number : threshold.number.isSome = true)
    (entry : Value) : Gives (entryBlocknumLe host threshold entry) := by
  unfold entryBlocknumLe
  split
  · split
    · exact lessEq_gives rfl number
    · exact lessEq_gives rfl number
    · split
      · exact lessEq_gives rfl number
      · exact gives_ok _
    · exact gives_ok _
  · exact gives_ok _

/-- What `eth_getLogs` reads once it has a block to search up to. -/
theorem lagged_gives {toBlock : Value} (number : toBlock.number.isSome = true) :
    Gives (do
      if ← (quirks .logsIndexedUpTo).less toBlock then
        match result with
        | .list items =>
            if (quirks .logsLagMode).eqText "partial" then
              pure (.list (← items.filterM (entryBlocknumLe host (quirks .logsIndexedUpTo))))
            else pure (.list [])
        | _ => pure (.list [])
      else pure result : Except PyError Value) ↔ (quirks .logsIndexedUpTo).number.isSome = true := by
  rw [gives_bind_of_forall, less_gives]
  · exact ⟨And.left, fun indexed => ⟨indexed, number⟩⟩
  · intro above gave
    have indexed := (less_gives.mp ⟨_, gave⟩).1
    split
    · split
      · split
        · obtain ⟨kept, filtered⟩ := filterM_gives (entryBlocknumLe_gives host indexed) ‹_›
          exact gives_bind.mpr ⟨kept, filtered, gives_ok _⟩
        · exact gives_ok _
      · exact gives_ok _
    · exact gives_ok _

/-- **`eth_getLogs`** of a provider whose index lags reads `blocks_behind`, a first parameter, and a number
as the end of its index when the filter names a block. -/
theorem getLogs_gives :
    Gives (getLogs host head blocksBehind params quirks result) ↔
      ((quirks .logsIndexedUpTo).isNone = false → Gives (host.sub (.int head) blocksBehind) ∧
        (params.truthy = true → ∃ first, params.first = .ok first ∧
          (namesBlock host first = true → (quirks .logsIndexedUpTo).number.isSome = true))) := by
  unfold getLogs
  split
  · next indexed => exact ⟨fun _ lags => absurd indexed (Bool.eq_false_iff.mp lags), fun _ => gives_ok _⟩
  · next lags =>
      rw [Bool.not_eq_true] at lags
      rw [gives_bind]
      constructor
      · rintro ⟨left, gave, later⟩ _
        refine ⟨⟨left, gave⟩, fun truthy => ?_⟩
        obtain ⟨tag, resolved, later⟩ := gives_bind.mp later
        have first : Gives params.first := by
          unfold resolveBlockTag at resolved
          rw [truthy] at resolved
          obtain ⟨first, here, -⟩ := ok_of_bind resolved
          exact ⟨first, here⟩
        obtain ⟨first, here⟩ := first
        refine ⟨first, here, fun named => ?_⟩
        obtain ⟨_, again, some, number⟩ := resolveBlockTag_eq host truthy here (integer_of_sub gave).2
        cases resolved.symm.trans again
        rw [named] at some
        obtain ⟨block, rfl⟩ := Option.isSome_iff_exists.mp some
        exact (lagged_gives (number block rfl)).mp later
      · intro needs
        obtain ⟨⟨left, gave⟩, read⟩ := needs lags
        refine ⟨left, gave, gives_bind.mpr ?_⟩
        cases truthy : params.truthy with
        | false =>
            refine ⟨none, ?_, gives_ok _⟩
            unfold resolveBlockTag
            rw [truthy]
            rfl
        | true =>
            obtain ⟨first, here, indexed⟩ := read truthy
            obtain ⟨tag, resolved, some, number⟩ :=
              resolveBlockTag_eq host truthy here (integer_of_sub gave).2
            refine ⟨tag, resolved, ?_⟩
            cases tag with
            | none => exact gives_ok _
            | some block => exact (lagged_gives (number block rfl)).mpr (indexed some.symm)

theorem blockStage_gives :
    Gives (blockStage host head blocksBehind method params result) ↔
      (method = .str "eth_getBlockByNumber" → result.isDict = true → params.truthy = true →
        blocksBehind.integer.isSome = true ∧ ∃ first, params.first = .ok first ∧ first.hashable = true) := by
  unfold blockStage
  split
  · next asked =>
      rw [Bool.and_eq_true, Bool.and_eq_true, Value.eqText_iff] at asked
      obtain ⟨⟨same, object⟩, truthy⟩ := asked
      cases result with
      | dict entries =>
          rw [getBlockByNumber_gives]
          exact ⟨fun needs _ _ _ => needs, fun needs => needs same rfl truthy⟩
      | _ => cases object
  · next other =>
      refine ⟨fun _ same object truthy => absurd ?_ other, fun _ => gives_ok _⟩
      rw [same, object, truthy]
      rfl

theorem blockStage_eq (other : method ≠ .str "eth_getBlockByNumber") :
    blockStage host head blocksBehind method params result = .ok result := by
  unfold blockStage
  rw [if_neg]
  · rfl
  · rw [Bool.and_eq_true, Bool.and_eq_true, Value.eqText_iff]
    exact fun both => other both.1.1

theorem logsStage_eq (other : method ≠ .str "eth_getLogs") :
    logsStage host quirks head blocksBehind method params result = .ok result := by
  unfold logsStage
  rw [if_neg]
  · rfl
  · rwa [Value.eqText_iff]

/-- The result of an entry, or the stub of the method. -/
def resultAt (cfg : List (Key × Value)) (method : Value) : Value :=
  (Dict.get cfg (.text "result")).getD ((stubOf ethMethodDefaults method).getD (.str "0x1"))

/-- **What the methods that compute their result need.** -/
structure Shapes (host : Host) (quirks : Quirks) (head : ℤ) (blocksBehind method params : Value)
    (cfg : List (Key × Value)) : Prop where
  number : method = .str "eth_blockNumber" → Dict.has cfg (.text "result") = false →
    blocksBehind.integer.isSome = true
  block : method = .str "eth_getBlockByNumber" → (resultAt cfg method).isDict = true → params.truthy = true →
    blocksBehind.integer.isSome = true ∧ ∃ first, params.first = .ok first ∧ first.hashable = true
  logs : method = .str "eth_getLogs" → (quirks .logsIndexedUpTo).isNone = false →
    Gives (host.sub (.int head) blocksBehind) ∧ (params.truthy = true → ∃ first, params.first = .ok first ∧
      (namesBlock host first = true → (quirks .logsIndexedUpTo).number.isSome = true))

/-- The three stages of an entry that is an object. -/
theorem resultStage_gives {cfg : List (Key × Value)} (hashable : method.hashable = true) :
    Gives (resultStage host quirks head blocksBehind method params (.dict cfg)) ↔
      Shapes host quirks head blocksBehind method params cfg := by
  have read : resultStage host quirks head blocksBehind method params (.dict cfg) = (do
      let result ← numberStage host head blocksBehind method (Dict.has cfg (.text "result")) (resultAt cfg method)
      let result ← blockStage host head blocksBehind method params result
      logsStage host quirks head blocksBehind method params result) := by
    unfold resultStage resultAt
    rw [tableGet_eq ethMethodDefaults hashable]
    rfl
  rw [read]
  by_cases number : method = .str "eth_blockNumber"
  · have quiet : Value.str "eth_blockNumber" ≠ .str "eth_getBlockByNumber" := by decide
    have silent : Value.str "eth_blockNumber" ≠ .str "eth_getLogs" := by decide
    rw [gives_bind_of_forall, numberStage_gives]
    · exact ⟨fun needs => ⟨needs, fun same => absurd (number.symm.trans same) quiet,
        fun same => absurd (number.symm.trans same) silent⟩, Shapes.number⟩
    · intro found _
      rw [number, blockStage_eq quiet, ok_bind, logsStage_eq silent]
      exact gives_ok found
  rw [numberStage_eq number, ok_bind]
  by_cases block : method = .str "eth_getBlockByNumber"
  · have silent : Value.str "eth_getBlockByNumber" ≠ .str "eth_getLogs" := by decide
    rw [gives_bind_of_forall, blockStage_gives]
    · exact ⟨fun needs => ⟨fun same => absurd same number, needs,
        fun same => absurd (block.symm.trans same) silent⟩, Shapes.block⟩
    · intro found _
      rw [block, logsStage_eq silent]
      exact gives_ok found
  rw [blockStage_eq block, ok_bind]
  by_cases logs : method = .str "eth_getLogs"
  · unfold logsStage
    rw [if_pos ((Value.eqText_iff method _).mpr logs), getLogs_gives]
    exact ⟨fun needs => ⟨fun same => absurd same number, fun same => absurd same block, fun _ => needs⟩,
      fun shapes => shapes.logs logs⟩
  rw [logsStage_eq logs]
  exact ⟨fun _ => ⟨fun same => absurd same number, fun same => absurd same block,
    fun same => absurd same logs⟩, fun _ => gives_ok _⟩

/-- The object that an entry is. -/
def asDict? : Value → Option (List (Key × Value))
  | .dict cfg => some cfg
  | _ => none

/-- The entry of the method is an object, the stub that it names is known, and it asks for an error or else
has what its method needs. -/
def Answers (host : Host) (request : Parsed) (scenario : Scenario) (quirks : Quirks) (head : ℤ)
    (entries : List (Key × Value)) : Prop :=
  ∃ cfg, entryAt entries (request.getD "method" (.str "unknown")) = .dict cfg ∧
    KnownStub ethErrorStubs cfg ∧ (asksError cfg = true ∨
      Shapes host quirks head (scenario .blocksBehind) (request.getD "method" (.str "unknown"))
        (request.getD "params" (.list [])) cfg)

/-- **When Ethereum answers.** -/
theorem gives_iff {request : Parsed} {scenario : Scenario} {entries : List (Key × Value)}
    (responses : responsesOf scenario = .dict entries)
    (hashable : (request.getD "method" (.str "unknown")).hashable = true) :
    Gives (buildSuccess host request scenario quirks head) ↔
      Answers host request scenario quirks head entries := by
  have object : ∀ entry cfg, asDict? entry = some cfg ↔ entry = .dict cfg := by
    intro entry cfg
    cases entry <;> simp [asDict?]
  have shaped : ∀ cfg, Gives (rest host request scenario quirks head (.dict cfg)) ↔
      Shapes host quirks head (scenario .blocksBehind) (request.getD "method" (.str "unknown"))
        (request.getD "params" (.list [])) cfg := by
    intro cfg
    exact (gives_bind_of_forall fun _ _ => gives_ok _).trans (resultStage_gives hashable)
  rw [buildSuccess_eq, responses, front_gives (by decide) asDict? hashable (fun _ => rfl)]
  · refine exists_congr fun cfg => ?_
    rw [object, shaped]
  · intro entry cfg other taking
    rw [(object entry cfg).mp taking] at other
    cases other
  · rintro entry refused - gave
    obtain ⟨result, stage, -⟩ := gives_bind.mp gave
    obtain ⟨_, _, stage⟩ := ok_of_bind stage
    obtain ⟨_, read, _⟩ := ok_of_bind stage
    cases entry with
    | dict cfg => cases refused
    | _ => cases read

end ProviderSimulator.Chains.Eth
