/-
**The checkpoints of two Sui providers agree.**

The tip of a provider is the head less `blocks_behind`, never below 0 and never above the largest checkpoint. A
checkpoint above the tip does not exist for the provider, and the digest of one that does exist comes from its number
and the salt alone.

* `tip_eq` and `checkpointAt_eq` — the tip and a checkpoint, with no exception on the way;
* `checkpoint_eq` — the answer to a request for a number, as an integer or as its decimal text;
* `checkpoints_agree` — **two providers with one salt give one checkpoint for one number.**
-/

import Mathlib.Tactic.Common
import Mathlib.Tactic.NormNum
import ProviderSimulator.Python.Numerals
import ProviderSimulator.Chains.SuiDigest

namespace ProviderSimulator.Chains.Sui

open ProviderSimulator.Lib ProviderSimulator.Python ProviderSimulator.Domain ProviderSimulator.Stubs
open ProviderSimulator.GraphqlDocument (RootField)

/-! ### The tip -/

/-- The tip of a provider. -/
def tipOf (head behind : ℤ) : ℤ := min suiMaxCheckpoint (max 0 (head - behind))

theorem tipOf_nonneg (head behind : ℤ) : 0 ≤ tipOf head behind :=
  le_min (by decide) (le_max_left _ _)

theorem tipOf_le (head behind : ℤ) : tipOf head behind ≤ suiMaxCheckpoint := min_le_left _ _

/-- **The tip is a whole number between 0 and the largest checkpoint.** -/
theorem tip_eq (host : Host) (head behind : ℤ) : tip host head (.int behind) = .ok (.int (tipOf head behind)) := by
  unfold tip orZero Value.atMost tipOf
  simp only [Host.sub_int, ok_bind, Value.less_int]
  by_cases positive : 0 < head - behind
  · rw [decide_eq_true positive, if_pos rfl, max_eq_right positive.le]
    rw [pure_bind, Value.less_int, ok_bind]
    by_cases below : head - behind < suiMaxCheckpoint
    · rw [decide_eq_true below, if_pos rfl, min_eq_right below.le]
      rfl
    · rw [decide_eq_false below, if_neg (by decide), min_eq_left (not_lt.mp below)]
      rfl
  · rw [decide_eq_false positive, if_neg (by decide), max_eq_left (not_lt.mp positive)]
    rfl

/-! ### Checkpoints -/

/-- The eight bytes of a number. -/
def bytes8 (number : ℤ) : Bytes :=
  (List.range 8).reverse.map fun place => UInt8.ofNat (number.toNat / 256 ^ place)

/-- A number that fits into eight bytes has them. -/
theorem toBytes8_eq {number : ℤ} (low : 0 ≤ number) (high : number ≤ suiMaxCheckpoint) :
    toBytes8 (.int number) = .ok (bytes8 number) := by
  have fits : number < 2 ^ 64 := lt_of_le_of_lt high (by decide)
  unfold toBytes8
  exact if_pos ⟨low, fits⟩

section

variable (host : Host) (salt : String)

/-- The digest of the checkpoint of a number. -/
def digestAt (number : ℤ) : Value :=
  .str (base58Encode (host.blake2b (host.encode "SimCheckpoint::" ++ host.encode salt ++ bytes8 number)))

/-- The checkpoint of a number. -/
def checkpointOf (number : ℤ) : Value :=
  .object [
    ("sequenceNumber", .int number), ("digest", digestAt host salt number),
    ("previousCheckpointDigest", if 0 < number then digestAt host salt (number - 1) else .none),
    ("epoch", .object [("epochId", .int suiEpochId)])]

theorem checkpointDigest_eq {number : ℤ} (low : 0 ≤ number) (high : number ≤ suiMaxCheckpoint) :
    checkpointDigest host (.int number) (.str salt) = .ok (digestAt host salt number) := by
  unfold checkpointDigest
  dsimp only
  rw [toBytes8_eq low high, ok_bind]
  rfl

/-- **A checkpoint up to the largest one is made without an exception.** -/
theorem checkpointAt_eq {number : ℤ} (low : 0 ≤ number) (high : number ≤ suiMaxCheckpoint) :
    checkpointAt host (.int number) (.str salt) = .ok (checkpointOf host salt number) := by
  unfold checkpointAt checkpointOf
  rw [checkpointDigest_eq host salt low high, ok_bind, Value.less_int, ok_bind]
  by_cases positive : 0 < number
  · rw [decide_eq_true positive, if_pos rfl, if_pos positive, Host.sub_int, ok_bind,
      checkpointDigest_eq host salt (by omega) (by omega)]
    rfl
  · rw [decide_eq_false positive, if_neg (by decide), if_neg positive]
    rfl

end

/-! ### Requests -/

/-- The root asks for the checkpoint of a number, as an integer or as its decimal text. -/
structure Asks (root : RootField) (number : ℤ) : Prop where
  name : root.name = "checkpoint"
  argument : root.arguments.get "sequenceNumber" = some (.int number) ∨
    root.arguments.get "sequenceNumber" = some (.str (toString number))

/-- The root asks for the checkpoint with no number. -/
structure AsksLatest (root : RootField) : Prop where
  name : root.name = "checkpoint"
  argument : (root.arguments.get "sequenceNumber").getD .none = .none

theorem isWholeNumber_digits {chars : List Char} (given : chars ≠ []) (digits : ∀ char ∈ chars, char.isDigit = true) :
    (!chars.isEmpty && chars.all fun char => '0' ≤ char && char ≤ '9') = true := by
  rw [Bool.and_eq_true, Bool.not_eq_true', List.isEmpty_eq_false_iff, List.all_eq_true]
  exact ⟨given, digits⟩

/-- The text of a whole number is one. -/
theorem isWholeNumber_toString (number : ℤ) : isWholeNumber (toString number).toList = true := by
  have digits : ∀ char ∈ Nat.toDigits 10 number.natAbs, char.isDigit = true :=
    fun char member => Nat.isDigit_of_mem_toDigits (by decide) (by decide) member
  have whole := isWholeNumber_digits Nat.toDigits_ne_nil digits
  rw [Host.toString_int, String.toList_ofList]
  by_cases negative : number < 0
  · rw [if_pos negative]
    exact whole
  · rw [if_neg negative, List.nil_append]
    unfold isWholeNumber
    split
    · next rest same =>
        have sign := digits '-' (same ▸ List.mem_cons_self)
        cases sign
    · exact whole

/-- The height of a decimal text is its number, where the language reads so many digits. -/
theorem asHeight_toString (host : Host) (number : ℤ) :
    asHeight host (.str (toString number)) =
      if (Nat.toDigits 10 number.natAbs).length ≤ 4300 then some number else none := by
  unfold asHeight
  dsimp only
  rw [Host.strip_toString, isWholeNumber_toString, if_pos rfl, String.ofList_toList]
  by_cases short : (Nat.toDigits 10 number.natAbs).length ≤ 4300
  · rw [if_pos short, Host.parseInt_toString short]
  · rw [if_neg short, Host.parseInt_toString_long (not_le.mp short)]

/-- A number with more digits is beyond the largest checkpoint. -/
theorem length_le_of_le {number : ℤ} (low : 0 ≤ number) (high : number ≤ suiMaxCheckpoint) :
    (Nat.toDigits 10 number.natAbs).length ≤ 4300 := by
  have small : number.natAbs < 10 ^ 16 := by
    unfold suiMaxCheckpoint at high
    omega
  have length := (Nat.length_toDigits_le_iff (by decide) (by decide)).mpr small
  omega

section

variable {host : Host} {head behind : ℤ} {quirks : Quirks} {salt : String} {root : RootField} {number : ℤ}

/-- A height that is read gives its checkpoint up to the tip, and null beyond. -/
theorem checkpoint_of_height (salted : quirks .digestSalt = .str salt) {argument : Value}
    (given : root.arguments.get "sequenceNumber" = some argument) (noNull : argument.isNone = false)
    (height : asHeight host argument = some number) :
    checkpoint host root head (.int behind) quirks =
      .ok (if 0 ≤ number ∧ number ≤ tipOf head behind then checkpointOf host salt number else .none) := by
  unfold checkpoint
  rw [tip_eq, ok_bind, given]
  dsimp only [Option.getD_some]
  rw [noNull, if_neg (by decide), height]
  dsimp only
  rw [Value.lessEq_int, ok_bind, salted]
  by_cases inside : 0 ≤ number ∧ number ≤ tipOf head behind
  · rw [if_pos inside, decide_eq_true inside.1, decide_eq_true inside.2, Bool.and_self, if_pos rfl]
    exact checkpointAt_eq host salt inside.1 (inside.2.trans (tipOf_le head behind))
  · have refused : (decide (0 ≤ number) && decide (number ≤ tipOf head behind)) = false := by
      rw [← Bool.decide_and]
      exact decide_eq_false inside
    rw [if_neg inside, refused, if_neg (by decide)]
    rfl

/-- **The answer to a request for a number** is its checkpoint up to the tip, and null beyond. -/
theorem checkpoint_eq (salted : quirks .digestSalt = .str salt) (asks : Asks root number) :
    checkpoint host root head (.int behind) quirks =
      .ok (if 0 ≤ number ∧ number ≤ tipOf head behind then checkpointOf host salt number else .none) := by
  rcases asks.argument with whole | text
  · exact checkpoint_of_height salted whole rfl rfl
  · by_cases short : (Nat.toDigits 10 number.natAbs).length ≤ 4300
    · exact checkpoint_of_height salted text rfl ((asHeight_toString host number).trans (if_pos short))
    · have outside : ¬ (0 ≤ number ∧ number ≤ tipOf head behind) := fun inside =>
        short (length_le_of_le inside.1 (inside.2.trans (tipOf_le head behind)))
      unfold checkpoint
      rw [tip_eq, ok_bind, text, if_neg outside]
      dsimp only [Option.getD_some]
      rw [asHeight_toString, if_neg short]
      rfl

/-- The answer to a request with no number is the checkpoint of the tip. -/
theorem checkpoint_latest (salted : quirks .digestSalt = .str salt) (asks : AsksLatest root) :
    checkpoint host root head (.int behind) quirks = .ok (checkpointOf host salt (tipOf head behind)) := by
  unfold checkpoint
  rw [tip_eq, ok_bind, asks.argument, salted]
  exact checkpointAt_eq host salt (tipOf_nonneg head behind) (tipOf_le head behind)

end

/-! ### Agreement -/

section

variable (host : Host) (graphql : GraphqlDocument.Request) (request : Parsed) (head behind : ℤ) {quirks : Quirks}
  {salt : String} {root : RootField} {number : ℤ}

theorem stub_asks (salted : quirks .digestSalt = .str salt) (asks : Asks root number) :
    stub host root graphql request head (.int behind) quirks =
      .ok (if 0 ≤ number ∧ number ≤ tipOf head behind then checkpointOf host salt number else .none) := by
  unfold stub
  rw [asks.name]
  exact checkpoint_eq salted asks

variable {host graphql request head behind}

theorem checkpointOf_ne_none : checkpointOf host salt number ≠ .none := nofun

/-- An answer that is not null is the checkpoint of a number up to the tip. -/
theorem answer_of_stub (salted : quirks .digestSalt = .str salt) (asks : Asks root number) {answer : Value}
    (gave : stub host root graphql request head (.int behind) quirks = .ok answer) (given : answer ≠ .none) :
    answer = checkpointOf host salt number ∧ 0 ≤ number ∧ number ≤ tipOf head behind := by
  have answers := (stub_asks host graphql request head behind salted asks).symm.trans gave
  by_cases inside : 0 ≤ number ∧ number ≤ tipOf head behind
  · rw [if_pos inside] at answers
    cases answers
    exact ⟨rfl, inside⟩
  · rw [if_neg inside] at answers
    cases answers
    exact absurd rfl given

end

/-- **The checkpoints of two Sui providers with one salt agree**, at every head and for every `blocks_behind`. No answer
is an exception. -/
theorem checkpoints_agree (host : Host) (salt : String) (graphql : GraphqlDocument.Request) (request : Parsed)
    (head behind behind' : ℤ) (quirks quirks' : Quirks) (salted : quirks .digestSalt = .str salt)
    (salted' : quirks' .digestSalt = .str salt) :
    tip host head (.int behind) = .ok (.int (tipOf head behind)) ∧
    (∀ root number, Asks root number →
      ∃ answer, stub host root graphql request head (.int behind) quirks = .ok answer ∧
        (answer ≠ .none ↔ 0 ≤ number ∧ number ≤ tipOf head behind)) ∧
    (∀ root root' number answer answer', Asks root number → Asks root' number →
      stub host root graphql request head (.int behind) quirks = .ok answer →
      stub host root' graphql request head (.int behind') quirks' = .ok answer' → answer ≠ .none → answer' ≠ .none →
      ∃ digest previous, answer.item "digest" = .ok digest ∧ answer'.item "digest" = .ok digest ∧
        answer.item "previousCheckpointDigest" = .ok previous ∧
        answer'.item "previousCheckpointDigest" = .ok previous) ∧
    (∀ root number answer, Asks root number →
      stub host root graphql request head (.int behind) quirks = .ok answer → answer ≠ .none →
      (number = 0 → answer.item "previousCheckpointDigest" = .ok .none) ∧
      (0 < number → ∀ before, Asks before (number - 1) →
        ∃ earlier digest, stub host before graphql request head (.int behind) quirks = .ok earlier ∧
          earlier.item "digest" = .ok digest ∧ answer.item "previousCheckpointDigest" = .ok digest)) ∧
    (∀ root, root.name = "serviceConfig" →
      ∃ answer available last, stub host root graphql request head (.int behind) quirks = .ok answer ∧
        answer.item "availableRange" = .ok available ∧ available.item "last" = .ok last ∧
        last.item "sequenceNumber" = .ok (.int (tipOf head behind))) ∧
    ∀ root, AsksLatest root →
      ∃ answer, stub host root graphql request head (.int behind) quirks = .ok answer ∧ answer ≠ .none ∧
        answer.item "sequenceNumber" = .ok (.int (tipOf head behind)) := by
  refine ⟨tip_eq host head behind, ?_, ?_, ?_, ?_, ?_⟩
  · intro root number asks
    refine ⟨_, stub_asks host graphql request head behind salted asks, ?_⟩
    by_cases inside : 0 ≤ number ∧ number ≤ tipOf head behind
    · rw [if_pos inside]
      exact iff_of_true checkpointOf_ne_none inside
    · rw [if_neg inside]
      exact iff_of_false (fun given => given rfl) inside
  · intro root root' number answer answer' asks asks' gave gave' given given'
    obtain ⟨rfl, -⟩ := answer_of_stub salted asks gave given
    obtain ⟨rfl, -⟩ := answer_of_stub salted' asks' gave' given'
    exact ⟨_, _, rfl, rfl, rfl, rfl⟩
  · intro root number answer asks gave given
    obtain ⟨rfl, low, high⟩ := answer_of_stub salted asks gave given
    refine ⟨?_, fun positive before asksBefore => ?_⟩
    · rintro rfl
      rfl
    · have inside : 0 ≤ number - 1 ∧ number - 1 ≤ tipOf head behind := ⟨by omega, by omega⟩
      have answers := stub_asks host graphql request head behind salted asksBefore
      rw [if_pos inside] at answers
      refine ⟨_, _, answers, rfl, ?_⟩
      unfold checkpointOf
      rw [if_pos positive]
      rfl
  · intro root name
    have answers : stub host root graphql request head (.int behind) quirks = .ok (.object [
        ("availableRange", .object [
          ("first", .object [("sequenceNumber", .int 0)]),
          ("last", .object [("sequenceNumber", .int (tipOf head behind))])])]) := by
      unfold stub
      rw [name]
      change (tip host head (.int behind) >>= fun last => _) = _
      rw [tip_eq]
      rfl
    exact ⟨_, _, _, answers, rfl, rfl, rfl⟩
  · intro root asks
    have answers : stub host root graphql request head (.int behind) quirks =
        .ok (checkpointOf host salt (tipOf head behind)) := by
      unfold stub
      rw [asks.name]
      exact checkpoint_latest salted asks
    exact ⟨_, answers, checkpointOf_ne_none, rfl⟩

/-- A root that asks for a checkpoint by its text. -/
def checkpointRoot (text : String) : RootField where
  name := "checkpoint"
  responseKey := "checkpoint"
  arguments := [("sequenceNumber", .str text)]
  selection := none

/-- A request with no field. -/
def noFields : GraphqlDocument.Request where
  operation := "query"
  roots := []
  method := "unknown"
  requestId := .none
  variableValues := []
  fragments := []

/-- A provider that is one checkpoint behind and one that is one ahead, with the default salt, at the checkpoint 7. -/
theorem checkpoints_agree_seven :
    Asks (checkpointRoot "7") 7 ∧ ∃ answer,
      stub emptyHashHost (checkpointRoot "7") noFields { fields := [] } 7 (.int (-1))
        (Chain.quirksDefault .sui) = .ok answer ∧ answer ≠ .none := by
  have asks : Asks (checkpointRoot "7") 7 := ⟨rfl, .inr rfl⟩
  obtain ⟨-, one, -⟩ := checkpoints_agree emptyHashHost "" noFields { fields := [] } 7 (-1) 1
    (Chain.quirksDefault .sui) (Chain.quirksDefault .sui) rfl rfl
  obtain ⟨answer, gave, iff⟩ := one _ _ asks
  exact ⟨asks, answer, gave, iff.mpr (by decide)⟩

end ProviderSimulator.Chains.Sui
