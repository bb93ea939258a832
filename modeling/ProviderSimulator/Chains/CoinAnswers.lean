/-
**When Bitcoin, Lightning and Solana answer.**

Bitcoin subtracts `blocks_behind` from its head for every request, and a method that has no entry of its
own reports the head: each height and each hash of the base head in its result is replaced, wherever it
sits. The replacement of the hash needs a whole number, and a result that is nested too deep runs out of
calls. Lightning subtracts for `getinfo` only, and Solana adds an offset to its slot.

* `Btc.gives_iff`, `Ln.gives_iff` and `Solana.gives_iff` — the three chains.
-/

import Mathlib.Tactic.Common
import ProviderSimulator.Chains.Answers

namespace ProviderSimulator.Chains

open ProviderSimulator.Lib ProviderSimulator.Python ProviderSimulator.Domain ProviderSimulator.Stubs

/-! ### What the chains share -/

section

variable {entries cfg : List (Key × Value)} {entry method : Value}

/-- Does the method have an entry of its own? -/
def hasOwn (entries : List (Key × Value)) : Value → Bool
  | .str name => Dict.has entries (.text name)
  | _ => false

theorem inResponses_eq (entries : List (Key × Value)) (hashable : method.hashable = true) :
    inResponses (.dict entries) method = .ok (hasOwn entries method) := by
  cases method with
  | list items => cases hashable
  | dict items => cases hashable
  | _ => rfl

/-- The result of an entry, or the stub of the method, or null. -/
def resultAt (defaults : Dict String Value) (cfg : List (Key × Value)) (method : Value) : Value :=
  (Dict.get cfg (.text "result")).getD ((stubOf defaults method).getD .none)

theorem resultOf_eq (defaults : Dict String Value) (cfg : List (Key × Value)) (hashable : method.hashable = true) :
    Btc.resultOf defaults (.dict cfg) method = .ok (resultAt defaults cfg method) := by
  unfold Btc.resultOf resultAt
  simp only [Value.contains, Value.item, Dict.has, ok_bind]
  cases Dict.get cfg (.text "result") with
  | none =>
      rw [tableGet_eq defaults hashable]
      rfl
  | some result => rfl

/-- An entry that holds no name is read as the empty one. -/
theorem resultOf_of_absent (defaults : Dict String Value) (method : Value)
    (absent : ∀ name ∈ entryNames, entry.contains name = .ok false) :
    Btc.resultOf defaults entry method = Btc.resultOf defaults (.dict []) method := by
  unfold Btc.resultOf
  rw [absent "result" (by decide)]
  rfl

/-- An entry that holds a `result` and that is no object raises. -/
theorem resultOf_of_refused {defaults : Dict String Value} (held : entry.contains "result" = .ok true)
    (other : entry.isDict = false) : ¬ Gives (Btc.resultOf defaults entry method) := by
  unfold Btc.resultOf
  rw [held]
  cases entry with
  | dict cfg => cases other
  | _ => exact not_gives_error _

/-- **A chain that asks its entries for three names.** -/
theorem front_gives_named {stubs : Dict String Value} (errors : ∀ item ∈ stubs, item.2 ≠ .none)
    {requestId : Value} {rest : Value → Except PyError Content} (hashable : method.hashable = true)
    (absent : ∀ entry, (∀ name ∈ entryNames, entry.contains name = .ok false) → rest entry = rest (.dict []))
    (refused : ∀ entry, entry.contains "result" = .ok true → entry.isDict = false → ¬ Gives (rest entry)) :
    Gives (front stubs (.dict entries) method requestId rest) ↔
      ∃ cfg, readAs entryNames (entryAt entries method) = some cfg ∧ KnownStub stubs cfg ∧
        (asksError cfg = true ∨ Gives (rest (.dict cfg))) := by
  refine front_gives errors (readAs entryNames) hashable (fun _ => rfl) ?_ ?_
  · intro entry cfg other taking
    obtain ⟨empty, none⟩ := readAs_taken other taking
    exact ⟨empty, overrideError_of_absent none, by rw [absent entry none]⟩
  · intro entry refusing quiet
    obtain ⟨held, other⟩ := result_of_refused refusing quiet
    exact refused entry held other

end

/-! ### Bitcoin -/

namespace Btc

variable {host : Host} {head : ℤ} {effectiveHead blocksBehind method params result : Value} {frames : ℕ}

mutual

/-- How many values lie inside one another. -/
def nesting : Value → ℕ
  | .list items => nestingItems items
  | .dict entries => nestingEntries entries
  | _ => 0

/-- The items of a list. -/
def nestingItems : List Value → ℕ
  | [] => 0
  | item :: rest => max (nesting item + 1) (nestingItems rest)

/-- The values of a dictionary. -/
def nestingEntries : List (Key × Value) → ℕ
  | [] => 0
  | (_, value) :: rest => max (nesting value + 1) (nestingEntries rest)

end

mutual

/-- Does the value hold the hash of the base head? -/
def holdsHash : Value → Bool
  | .str text => text = btcBlockHash btcLatestBlock
  | .list items => holdsHashItems items
  | .dict entries => holdsHashEntries entries
  | _ => false

/-- The items of a list. -/
def holdsHashItems : List Value → Bool
  | [] => false
  | item :: rest => holdsHash item || holdsHashItems rest

/-- The values of a dictionary. -/
def holdsHashEntries : List (Key × Value) → Bool
  | [] => false
  | (_, value) :: rest => holdsHash value || holdsHashEntries rest

end

theorem formatHex64_gives : Gives (formatHex64 effectiveHead) ↔ effectiveHead.integer.isSome = true := by
  unfold formatHex64
  cases effectiveHead.integer with
  | none => exact gives_error_iff Bool.false_ne_true _
  | some number => exact gives_ok_iff rfl _

/-- Two parts that must both fit and that both may hold the hash. -/
theorem both_parts {first second limit : ℕ} {here there : Bool} {whole : Prop} :
    (first < limit ∧ (here = true → whole)) ∧ (second ≤ limit ∧ (there = true → whole)) ↔
      max (first + 1) second ≤ limit ∧ ((here || there) = true → whole) := by
  rw [max_le_iff, Nat.succ_le_iff, Bool.or_eq_true, or_imp]
  exact and_and_and_comm

mutual

/-- **A result is restamped** if it is not nested too deep, and if the head is a whole number where the
hash of the base head is to be replaced. -/
theorem restampHead_gives (frames : ℕ) : ∀ value, Gives (restampHead effectiveHead frames value) ↔
    nesting value < frames ∧ (holdsHash value = true → effectiveHead.integer.isSome = true) := by
  intro value
  cases frames with
  | zero =>
      unfold restampHead
      exact gives_error_iff (fun fits => Nat.not_lt_zero _ fits.1) _
  | succ frames =>
      cases value with
      | str text =>
          unfold restampHead nesting holdsHash
          split
          · next same =>
              rw [decide_eq_true same, gives_bind_pure, formatHex64_gives]
              exact ⟨fun whole => ⟨Nat.succ_pos _, fun _ => whole⟩, fun fits => fits.2 rfl⟩
          · next other =>
              rw [decide_eq_false other]
              exact ⟨fun _ => ⟨Nat.succ_pos _, nofun⟩, fun _ => gives_ok _⟩
      | list items =>
          unfold restampHead nesting holdsHash
          rw [gives_bind_pure, restampItems_gives frames items, Nat.lt_succ_iff]
      | dict entries =>
          unfold restampHead nesting holdsHash
          rw [gives_bind_pure, restampEntries_gives frames entries, Nat.lt_succ_iff]
      | _ =>
          unfold restampHead nesting holdsHash
          exact ⟨fun _ => ⟨Nat.succ_pos _, nofun⟩, fun _ => gives_ok _⟩

theorem restampItems_gives (frames : ℕ) : ∀ items, Gives (restampItems effectiveHead frames items) ↔
    nestingItems items ≤ frames ∧ (holdsHashItems items = true → effectiveHead.integer.isSome = true)
  | [] => ⟨fun _ => ⟨Nat.zero_le _, nofun⟩, fun _ => gives_ok _⟩
  | item :: rest => by
      unfold restampItems nestingItems holdsHashItems
      rw [← both_parts, ← restampHead_gives frames item, ← restampItems_gives frames rest, gives_bind]
      simp only [gives_bind_pure]
      exact exists_and_right

theorem restampEntries_gives (frames : ℕ) : ∀ entries, Gives (restampEntries effectiveHead frames entries) ↔
    nestingEntries entries ≤ frames ∧ (holdsHashEntries entries = true → effectiveHead.integer.isSome = true)
  | [] => ⟨fun _ => ⟨Nat.zero_le _, nofun⟩, fun _ => gives_ok _⟩
  | (key, value) :: rest => by
      unfold restampEntries nestingEntries holdsHashEntries
      rw [← both_parts, ← restampHead_gives frames value, ← restampEntries_gives frames rest, gives_bind]
      simp only [gives_bind_pure]
      exact exists_and_right

end

/-- A restamped object is an object, and nothing else becomes one. -/
theorem restampHead_isDict {restamped : Value} (number : effectiveHead.isDict = false)
    (gave : restampHead effectiveHead frames result = .ok restamped) : restamped.isDict = result.isDict := by
  cases frames with
  | zero =>
      unfold restampHead at gave
      cases gave
  | succ frames =>
      cases result with
      | int value =>
          unfold restampHead at gave
          cases gave
          split
          · exact number
          · rfl
      | str text =>
          unfold restampHead at gave
          split at gave
          · obtain ⟨hash, -, gave⟩ := ok_of_bind gave
            cases gave
            rfl
          · cases gave
            rfl
      | list items =>
          unfold restampHead at gave
          obtain ⟨found, -, gave⟩ := ok_of_bind gave
          cases gave
          rfl
      | dict entries =>
          unfold restampHead at gave
          obtain ⟨found, -, gave⟩ := ok_of_bind gave
          cases gave
          rfl
      | _ =>
          unfold restampHead at gave
          cases gave
          rfl

/-- Is the value an infinite number, which has no integer? -/
def infinite (value : Value) : Bool := value = .float .posInf || value = .float .negInf

/-- Does the call return, or raise one of the two errors that `getblockhash` answers? -/
def caught {T : Type} : Except PyError T → Bool
  | .ok _ => true
  | .error .typeError => true
  | .error .valueError => true
  | .error _ => false

theorem namedHash_gives_iff_caught : Gives (namedHash host params) ↔ caught (namedHeight host params) = true := by
  unfold namedHash
  cases namedHeight host params with
  | ok height => exact gives_ok_iff rfl _
  | error error =>
      cases error with
      | typeError => exact gives_ok_iff rfl _
      | valueError => exact gives_ok_iff rfl _
      | _ => exact gives_error_iff Bool.false_ne_true _

/-- Only an infinite number raises an error that is not caught. -/
theorem caught_intOf (host : Host) (value : Value) : caught (host.intOf value) = !infinite value := by
  unfold Host.intOf
  cases value with
  | float number => cases number <;> rfl
  | str text =>
      dsimp only
      cases host.parseInt 10 text <;> rfl
  | _ => rfl

theorem namedHash_gives (truthy : params.truthy = true) :
    Gives (namedHash host params) ↔
      params.isDict = false ∧ ∀ first, params.first = .ok first → infinite first = false := by
  rw [namedHash_gives_iff_caught]
  unfold namedHeight
  cases here : params.first with
  | ok first =>
      have container : params.isDict = false := by
        cases params with
        | dict entries => cases here
        | _ => rfl
      show caught (host.intOf first) = true ↔ _
      rw [caught_intOf, Bool.not_eq_true']
      refine ⟨fun finite => ⟨container, fun other same => ?_⟩, fun finite => finite.2 first rfl⟩
      cases same
      exact finite
  | error error =>
      show caught (.error error : Except PyError ℤ) = true ↔ _
      cases params with
      | dict entries =>
          cases here
          exact ⟨nofun, nofun⟩
      | list items =>
          cases items with
          | nil => cases truthy
          | cons item rest => cases here
      | str text =>
          have given : text ≠ "" := of_decide_eq_true truthy
          cases chars : text.toList with
          | nil => exact absurd (String.toList_eq_nil_iff.mp chars) given
          | cons char rest =>
              simp only [Value.first, chars] at here
              cases here
      | _ =>
          cases here
          exact ⟨fun _ => ⟨rfl, nofun⟩, fun _ => rfl⟩

/-- **What a method without an entry of its own needs.** -/
structure Shapes (host : Host) (blocksBehind method params result : Value) : Prop where
  named : method = .str "getblockhash" → params.truthy = true →
    params.isDict = false ∧ ∀ first, params.first = .ok first → infinite first = false
  restamped : (method = .str "getblockhash" → params.truthy = false) →
    nesting result < host.frames ∧ (holdsHash result = true → blocksBehind.integer.isSome = true)
  echoed : method = .str "getblock" ∨ method = .str "getblockheader" → params.truthy = true →
    result.isDict = true → Gives params.first

theorem echoHash_gives {entries : List (Key × Value)} :
    Gives (echoHash params (.dict entries)) ↔ Gives params.first := by
  unfold echoHash
  refine gives_bind_of_forall fun first _ => ?_
  split
  · exact gives_ok _
  · exact gives_ok _

/-- `getblockhash` with a height leaves its result to what follows. -/
theorem computed_of_named (asked : method = .str "getblockhash") (truthy : params.truthy = true) :
    computed host effectiveHead params result method = .ok result := by
  unfold computed
  rw [asked, truthy]
  rfl

/-- Any other method restamps its result, and two of them echo a hash. -/
theorem computed_gives (number : effectiveHead.isDict = false)
    (other : method = .str "getblockhash" → params.truthy = false) :
    Gives (computed host effectiveHead params result method) ↔
      Gives (restampHead effectiveHead host.frames result) ∧
        (method = .str "getblock" ∨ method = .str "getblockheader" → params.truthy = true →
          result.isDict = true → Gives params.first) := by
  have unnamed : ¬ ((method.eqText "getblockhash" && params.truthy) = true) := by
    rw [Bool.and_eq_true, Value.eqText_iff]
    rintro ⟨same, truthy⟩
    rw [other same] at truthy
    cases truthy
  have asked : ∀ restamped : Value, ((method.eqText "getblock" || method.eqText "getblockheader") &&
      params.truthy && restamped.isDict) = true ↔
        ((method = .str "getblock" ∨ method = .str "getblockheader") ∧ params.truthy = true) ∧
          restamped.isDict = true := by
    intro restamped
    rw [Bool.and_eq_true, Bool.and_eq_true, Bool.or_eq_true, Value.eqText_iff, Value.eqText_iff]
  unfold computed
  rw [if_neg unnamed, gives_bind]
  have echo : ∀ restamped, restampHead effectiveHead host.frames result = .ok restamped →
      (Gives (if (method.eqText "getblock" || method.eqText "getblockheader") && params.truthy &&
          restamped.isDict then echoHash params restamped else pure restamped) ↔
        (method = .str "getblock" ∨ method = .str "getblockheader" → params.truthy = true →
          result.isDict = true → Gives params.first)) := by
    intro restamped gave
    rw [← restampHead_isDict number gave]
    split
    · next both =>
        obtain ⟨⟨named, truthy⟩, object⟩ := (asked restamped).mp both
        cases restamped with
        | dict entries =>
            rw [echoHash_gives]
            exact ⟨fun first _ _ _ => first, fun needs => needs named truthy rfl⟩
        | _ => cases object
    · next none =>
        exact ⟨fun _ named truthy object => absurd ((asked restamped).mpr ⟨⟨named, truthy⟩, object⟩) none,
          fun _ => gives_ok _⟩
  constructor
  · rintro ⟨restamped, gave, later⟩
    exact ⟨⟨restamped, gave⟩, (echo restamped gave).mp later⟩
  · rintro ⟨⟨restamped, gave⟩, needs⟩
    exact ⟨restamped, gave, (echo restamped gave).mpr needs⟩

section

variable {request : Parsed} {scenario : Scenario} {entries cfg : List (Key × Value)}

/-- The second half of a reply. -/
theorem rest_gives (responses : responsesOf scenario = .dict entries)
    (hashable : (request.getD "method" (.str "unknown")).hashable = true) :
    Gives (rest host request scenario head (.dict cfg)) ↔
      Gives (host.sub (.int head) (scenario .blocksBehind)) ∧
        (hasOwn entries (request.getD "method" (.str "unknown")) = true ∨
          Shapes host (scenario .blocksBehind) (request.getD "method" (.str "unknown"))
            (request.getD "params" (.list []))
            (resultAt btcMethodDefaults cfg (request.getD "method" (.str "unknown")))) := by
  unfold rest
  rw [responses]
  generalize request.getD "method" (.str "unknown") = method at *
  generalize request.getD "params" (.list []) = params at *
  simp only [resultOf_eq btcMethodDefaults cfg hashable, inResponses_eq entries hashable, ok_bind]
  generalize resultAt btcMethodDefaults cfg method = result at *
  rw [gives_bind, Gives, ← exists_and_right]
  refine exists_congr fun left => and_congr_right fun gave => ?_
  cases hasOwn entries method with
  | true => exact gives_ok_iff (.inl rfl) _
  | false =>
      have number : left.isDict = false := by
        have some := (integer_of_sub gave).2
        cases left with
        | dict entries => cases some
        | _ => rfl
      simp only [Bool.false_eq_true, if_false, false_or]
      have asks : (method.eqText "getblockhash" && params.truthy) = true ↔
          method = .str "getblockhash" ∧ params.truthy = true := by
        rw [Bool.and_eq_true, Value.eqText_iff]
      by_cases asked : method = .str "getblockhash" ∧ params.truthy = true
      · -- The height is named: the result is not restamped, and no hash is echoed.
        rw [computed_of_named asked.1 asked.2, ok_bind, if_pos (asks.mpr asked), gives_bind_of_forall,
          namedHash_gives asked.2]
        · refine ⟨fun named => ⟨fun _ _ => named, fun other => ?_, ?_⟩, fun shapes => shapes.named asked.1 asked.2⟩
          · rw [other asked.1] at asked
            cases asked.2
          · rw [asked.1]
            exact fun either => absurd either (by decide)
        · intro found _
          cases found with
          | some hash => exact gives_ok _
          | none =>
              have known : Gives (tableItem btcErrorStubs (.str "invalid_parameter")) :=
                (tableItem_gives _ _).mpr ⟨_, rfl, by decide⟩
              exact (gives_bind_of_forall fun _ _ => gives_ok _).mpr known
      · have other : method = .str "getblockhash" → params.truthy = false := fun same =>
          Bool.eq_false_iff.mpr fun truthy => asked ⟨same, truthy⟩
        rw [gives_bind_of_forall, computed_gives number other, restampHead_gives, (integer_of_sub gave).1]
        · exact ⟨fun needs => ⟨fun same truthy => absurd ⟨same, truthy⟩ asked, fun _ => needs.1, needs.2⟩,
            fun shapes => ⟨shapes.restamped other, shapes.echoed⟩⟩
        · intro found _
          rw [if_neg fun both => asked (asks.mp both)]
          exact gives_ok _

/-- The entry can be read, the stub that it names is known, and it asks for an error; or else the chain can
subtract `blocks_behind` from its head, and a method that has no entry of its own has what it needs. -/
def Answers (host : Host) (request : Parsed) (scenario : Scenario) (head : ℤ) (entries : List (Key × Value)) :
    Prop :=
  ∃ cfg, readAs entryNames (entryAt entries (request.getD "method" (.str "unknown"))) = some cfg ∧
    KnownStub btcErrorStubs cfg ∧ (asksError cfg = true ∨
      Gives (host.sub (.int head) (scenario .blocksBehind)) ∧
        (hasOwn entries (request.getD "method" (.str "unknown")) = true ∨
          Shapes host (scenario .blocksBehind) (request.getD "method" (.str "unknown"))
            (request.getD "params" (.list []))
            (resultAt btcMethodDefaults cfg (request.getD "method" (.str "unknown")))))

/-- **When Bitcoin answers.** -/
theorem gives_iff (responses : responsesOf scenario = .dict entries)
    (hashable : (request.getD "method" (.str "unknown")).hashable = true) :
    Gives (buildSuccess host request scenario head) ↔ Answers host request scenario head entries := by
  rw [buildSuccess_eq, responses, front_gives_named (by decide) hashable]
  · simp only [rest_gives responses hashable, Answers]
  · intro entry absent
    unfold rest
    simp only [resultOf_of_absent btcMethodDefaults _ absent]
  · intro entry held other gave
    obtain ⟨result, read, -⟩ := gives_bind.mp gave
    exact resultOf_of_refused held other ⟨result, read⟩

end

end Btc

/-! ### Lightning -/

namespace Ln

variable {host : Host} {head : ℤ} {blocksBehind method params result : Value}

/-- **What a method without an entry of its own needs.** -/
structure Shapes (host : Host) (head : ℤ) (blocksBehind method params result : Value) : Prop where
  synced : method = .str "getinfo" → result.isDict = true → Gives (host.sub (.int head) blocksBehind)
  echoed : ∀ name wanted, method = .str name → Ln.echoed.get name = some wanted → params.truthy = true →
    result.isDict = true → Gives params.first

theorem synced_gives {entries : List (Key × Value)} :
    Gives (synced host head blocksBehind (.dict entries)) ↔ Gives (host.sub (.int head) blocksBehind) := by
  unfold synced
  refine gives_bind_of_forall fun left _ => ?_
  rw [Value.setItem, ok_bind]
  split
  · exact gives_ok _
  · exact gives_ok _

theorem echo_gives {entries : List (Key × Value)} {name : String} :
    Gives (echo params (.dict entries) name) ↔ Gives params.first := by
  unfold echo
  refine gives_bind_of_forall fun first _ => ?_
  split
  · split
    · exact gives_ok _
    · exact gives_ok _
  · exact gives_ok _

/-- The result of a method that echoes its first parameter. -/
def echoStage (params method result : Value) : Except PyError Value :=
  match method with
  | .str name =>
      match echoed.get name with
      | some wanted => if params.truthy && result.isDict then echo params result wanted else pure result
      | none => pure result
  | _ => pure result

theorem echoStage_gives :
    Gives (echoStage params method result) ↔
      ∀ name wanted, method = .str name → echoed.get name = some wanted → params.truthy = true →
        result.isDict = true → Gives params.first := by
  unfold echoStage
  cases method with
  | str name =>
      dsimp only
      cases table : echoed.get name with
      | none =>
          refine ⟨fun _ other wanted same found => ?_, fun _ => gives_ok _⟩
          cases same
          rw [table] at found
          cases found
      | some wanted =>
          dsimp only
          split
          · next both =>
              rw [Bool.and_eq_true] at both
              cases result with
              | dict entries =>
                  rw [echo_gives]
                  exact ⟨fun first _ _ _ _ _ _ => first, fun needs => needs name wanted rfl table both.1 rfl⟩
              | _ => cases both.2
          · next neither =>
              refine ⟨fun _ _ _ _ _ truthy object => absurd ?_ neither, fun _ => gives_ok _⟩
              rw [truthy, object]
              rfl
  | _ => exact ⟨fun _ _ _ same => absurd same (by simp), fun _ => gives_ok _⟩

theorem computed_eq :
    computed host head blocksBehind params result method =
      (if method.eqText "getinfo" && result.isDict then synced host head blocksBehind result else pure result) >>=
        echoStage params method := by
  unfold computed
  exact branch_bind _ _ _ _

theorem computed_gives :
    Gives (computed host head blocksBehind params result method) ↔
      Shapes host head blocksBehind method params result := by
  rw [computed_eq]
  by_cases asked : method = .str "getinfo"
  · have silent : echoed.get "getinfo" = none := by decide
    rw [gives_bind_of_forall]
    · rw [asked]
      cases result with
      | dict entries =>
          rw [if_pos (by rfl), synced_gives]
          refine ⟨fun left => ⟨fun _ _ => left, fun name wanted same found => ?_⟩, fun shapes => shapes.synced rfl rfl⟩
          cases same
          rw [silent] at found
          cases found
      | _ => exact ⟨fun _ => ⟨nofun, fun _ _ _ _ _ object => nomatch object⟩, fun _ => gives_ok _⟩
    · intro found _
      rw [echoStage_gives, asked]
      intro name wanted same held
      cases same
      rw [silent] at held
      cases held
  · rw [if_neg]
    · show Gives (echoStage params method result) ↔ _
      rw [echoStage_gives]
      exact ⟨fun needs => ⟨fun same => absurd same asked, needs⟩, Shapes.echoed⟩
    · rw [Bool.and_eq_true, Value.eqText_iff]
      exact fun both => asked both.1

section

variable {request : Parsed} {scenario : Scenario} {entries cfg : List (Key × Value)}

/-- The second half of a reply. -/
theorem rest_gives (responses : responsesOf scenario = .dict entries)
    (hashable : (request.getD "method" (.str "unknown")).hashable = true) :
    Gives (rest host request scenario head (.dict cfg)) ↔
      hasOwn entries (request.getD "method" (.str "unknown")) = true ∨
        Shapes host head (scenario .blocksBehind) (request.getD "method" (.str "unknown"))
          (request.getD "params" (.list []))
          (resultAt lndMethodDefaults cfg (request.getD "method" (.str "unknown"))) := by
  unfold rest
  rw [responses]
  simp only [resultOf_eq lndMethodDefaults cfg hashable, inResponses_eq entries hashable, ok_bind]
  cases hasOwn entries (request.getD "method" (.str "unknown")) with
  | true => exact gives_ok_iff (.inl rfl) _
  | false =>
      simp only [Bool.false_eq_true, if_false, false_or]
      rw [← computed_gives]
      exact gives_bind_of_forall fun _ _ => gives_ok _

/-- The entry can be read, the stub that it names is known, and it asks for an error or is the method's own,
or else the method has what it needs. -/
def Answers (host : Host) (request : Parsed) (scenario : Scenario) (head : ℤ) (entries : List (Key × Value)) :
    Prop :=
  ∃ cfg, readAs entryNames (entryAt entries (request.getD "method" (.str "unknown"))) = some cfg ∧
    KnownStub lndErrorStubs cfg ∧ (asksError cfg = true ∨
      hasOwn entries (request.getD "method" (.str "unknown")) = true ∨
        Shapes host head (scenario .blocksBehind) (request.getD "method" (.str "unknown"))
          (request.getD "params" (.list []))
          (resultAt lndMethodDefaults cfg (request.getD "method" (.str "unknown"))))

/-- **When Lightning answers.** -/
theorem gives_iff (responses : responsesOf scenario = .dict entries)
    (hashable : (request.getD "method" (.str "unknown")).hashable = true) :
    Gives (buildSuccess host request scenario head) ↔ Answers host request scenario head entries := by
  rw [buildSuccess_eq, responses, front_gives_named (by decide) hashable]
  · simp only [rest_gives responses hashable, Answers]
  · intro entry absent
    unfold rest
    simp only [resultOf_of_absent lndMethodDefaults _ absent, absent "result" (by decide)]
    rfl
  · intro entry held other gave
    obtain ⟨result, read, -⟩ := gives_bind.mp gave
    exact resultOf_of_refused held other ⟨result, read⟩

end

end Ln

/-! ### Solana -/

namespace Solana

variable {host : Host} {head : ℤ} {quirks : Quirks} {slot method : Value}

theorem resultStage_gives :
    Gives (resultStage host quirks slot method) ↔
      (method = .str "getLatestBlockhash" → Gives (host.sub slot (quirks .slotBlockGap))) := by
  unfold resultStage
  split
  · next name =>
      unfold computed
      split
      · exact (gives_bind_of_forall fun _ _ => gives_ok _).trans ⟨fun height _ => height, fun needs => needs rfl⟩
      · exact ⟨fun _ => nofun, fun _ => gives_ok _⟩
      · exact ⟨fun _ => nofun, fun _ => gives_ok _⟩
      · exact ⟨fun _ => nofun, fun _ => gives_ok _⟩
      · next other _ _ _ => exact ⟨fun _ same => absurd (Value.str.inj same) other, fun _ => gives_ok _⟩
  · next other =>
      exact ⟨fun _ same => absurd same (other _), fun _ => gives_ok _⟩

section

variable {request : Parsed} {scenario : Scenario} {entries cfg : List (Key × Value)}

/-- The second half of a reply. -/
theorem rest_gives :
    Gives (rest host request scenario quirks head (.dict cfg)) ↔
      Dict.has cfg (.text "result") = true ∨ ∃ slot, host.add (.int head) (quirks .slotOffset) = .ok slot ∧
        (request.getD "method" (.str "unknown") = .str "getLatestBlockhash" →
          Gives (host.sub slot (quirks .slotBlockGap))) := by
  unfold rest
  simp only [Value.contains, Value.item, Dict.has, ok_bind]
  cases Dict.get cfg (.text "result") with
  | some result => exact gives_ok_iff (.inl rfl) _
  | none =>
      simp only [Option.isSome_none, Bool.false_eq_true, if_false, false_or]
      rw [gives_bind]
      refine exists_congr fun slot => and_congr_right fun _ => ?_
      rw [gives_bind_of_forall, resultStage_gives]
      intro found _
      cases found with
      | some result => exact gives_ok _
      | none =>
          dsimp only
          split
          · have known : Gives (tableItem solanaErrorStubs (.str "method_not_found")) :=
              (tableItem_gives _ _).mpr ⟨_, rfl, by decide⟩
            exact (gives_bind_of_forall fun _ _ => gives_ok _).mpr known
          · exact gives_ok _

/-- The entry can be read, the stub that it names is known, and it asks for an error or has a result, or
else the chain can add the offset to its slot and, for `getLatestBlockhash`, subtract the gap. -/
def Answers (host : Host) (request : Parsed) (quirks : Quirks) (head : ℤ) (entries : List (Key × Value)) :
    Prop :=
  ∃ cfg, readAs entryNames (entryAt entries (request.getD "method" (.str "unknown"))) = some cfg ∧
    KnownStub solanaErrorStubs cfg ∧ (asksError cfg = true ∨
      Dict.has cfg (.text "result") = true ∨ ∃ slot, host.add (.int head) (quirks .slotOffset) = .ok slot ∧
        (request.getD "method" (.str "unknown") = .str "getLatestBlockhash" →
          Gives (host.sub slot (quirks .slotBlockGap))))

/-- **When Solana answers.** -/
theorem gives_iff (responses : responsesOf scenario = .dict entries)
    (hashable : (request.getD "method" (.str "unknown")).hashable = true) :
    Gives (buildSuccess host request scenario quirks head) ↔ Answers host request quirks head entries := by
  rw [buildSuccess_eq, responses, front_gives_named (by decide) hashable]
  · simp only [rest_gives, Answers]
  · intro entry absent
    unfold rest
    rw [absent "result" (by decide)]
    rfl
  · intro entry held other gave
    unfold rest at gave
    rw [held] at gave
    cases entry with
    | dict cfg => cases other
    | _ => exact not_gives_error _ gave

end

end Solana

end ProviderSimulator.Chains
