/-
**The blocks of Bitcoin.**

A reply to `getblock` and to `getblockheader` is a stub that is written against one height. The walk of `_restamp_head`
moves its height and its hash to the head of the provider, and then the hash that was asked for replaces the hash. Two
fields do not follow: the height of a block that is asked for by its hash is still the one of the head, and the hash of
the block before is still the one below the base height.

* `btcBlockHash_injective` — two heights have two hashes;
* `restampHead_eq` — a value, moved to a head (`moved`);
* `block_reply` and `hash_reply` — the replies, where no entry of `responses` applies;
* `consistent_iff` — **the reply is consistent if and only if it is about the head**, and for `getblock` at the base
  height only.
-/

import Mathlib.Tactic.Common
import ProviderSimulator.Chains.CoinAnswers
import ProviderSimulator.Chains.EthHeads

namespace ProviderSimulator.Chains.Btc

open ProviderSimulator.Lib ProviderSimulator.Python ProviderSimulator.Domain ProviderSimulator.Stubs

/-! ### Hashes -/

/-- The hash is the sign of the height, and then digits that stand for its size. -/
theorem btcBlockHash_toList (host : Host) (height : ℤ) :
    ∃ chars, (btcBlockHash height).toList = (if height < 0 then ['-'] else []) ++ chars ∧
      host.digits 16 0 chars = some height.natAbs := by
  have written : ∀ digit < 16, host.IsDigit 16 (id digit.digitChar) digit :=
    fun digit small => (Host.isDigit_digitChar small (by decide)).1
  obtain ⟨values, reads, same⟩ := Host.reads_toDigits (by decide) written height.natAbs
  rw [List.map_id] at reads
  have zeros : ∀ count, host.Reads 16 (List.replicate count '0') (List.replicate count 0) := by
    intro count
    induction count with
    | zero => exact .nil
    | succ count ih => exact .cons (written 0 (by decide)) ih
  have padded : ∀ count, host.digits 16 0 (List.replicate count '0' ++ Nat.toDigits 16 height.natAbs) =
      some height.natAbs := by
    intro count
    rw [Host.digits_reads (List.rel_append (zeros count) reads)]
    exact congrArg some ((Radix.number_replicate count values).trans same)
  unfold btcBlockHash hex64
  dsimp only
  rw [String.toList_ofList, List.append_assoc]
  exact ⟨_, rfl, padded _⟩

/-- **Two heights have two hashes.** -/
theorem btcBlockHash_injective {first second : ℤ} (same : btcBlockHash first = btcBlockHash second) : first = second := by
  obtain ⟨chars, text, digits⟩ := btcBlockHash_toList asciiHost first
  obtain ⟨chars', text', digits'⟩ := btcBlockHash_toList asciiHost second
  rw [same, text'] at text
  -- No digits start with a sign.
  have unsigned : ∀ rest : List Char, asciiHost.digits 16 0 ('-' :: rest) = none := fun rest => by
    simp [Host.digits, Host.digitOf]
  by_cases negative : first < 0
  · by_cases negative' : second < 0
    · rw [if_pos negative, if_pos negative', List.append_cancel_left_eq] at text
      rw [text, digits] at digits'
      injection digits' with size
      omega
    · rw [if_pos negative, if_neg negative', List.nil_append] at text
      rw [text, List.singleton_append, unsigned] at digits'
      cases digits'
  · by_cases negative' : second < 0
    · rw [if_neg negative, if_pos negative', List.nil_append] at text
      rw [← text, List.singleton_append, unsigned] at digits
      cases digits
    · rw [if_neg negative, if_neg negative', List.append_cancel_left_eq] at text
      rw [text, digits] at digits'
      injection digits' with size
      omega

/-! ### A value at a head -/

mutual

/-- The value with every base height and every base hash replaced. -/
def moved (height : Value) (hash : String) : Value → Value
  | .int value => if value = btcLatestBlock then height else .int value
  | .str value => if value = btcBlockHash btcLatestBlock then .str hash else .str value
  | .dict entries => .dict (movedEntries height hash entries)
  | .list items => .list (movedItems height hash items)
  | value => value

/-- The items of a list. -/
def movedItems (height : Value) (hash : String) : List Value → List Value
  | [] => []
  | item :: rest => moved height hash item :: movedItems height hash rest

/-- The values of a dictionary. -/
def movedEntries (height : Value) (hash : String) : List (Key × Value) → List (Key × Value)
  | [] => []
  | (key, value) :: rest => (key, moved height hash value) :: movedEntries height hash rest

end

section

variable {effectiveHead : Value} {hash : String}

mutual

/-- **A value that is not nested too deep is moved**, with the hash of the head where it holds one. -/
theorem restampHead_eq (frames : ℕ) : ∀ value, nesting value < frames →
    (holdsHash value = true → formatHex64 effectiveHead = .ok hash) →
      restampHead effectiveHead frames value = .ok (moved effectiveHead hash value) := by
  intro value fits format
  cases frames with
  | zero => exact absurd fits (Nat.not_lt_zero _)
  | succ frames =>
      cases value with
      | int value => rfl
      | str text =>
          unfold restampHead moved
          by_cases same : text = btcBlockHash btcLatestBlock
          · rw [if_pos same, if_pos same, format (decide_eq_true same)]
            rfl
          · rw [if_neg same, if_neg same]
      | list items =>
          unfold restampHead moved
          rw [restampItems_eq frames items (Nat.lt_succ_iff.mp fits) format]
          rfl
      | dict entries =>
          unfold restampHead moved
          rw [restampEntries_eq frames entries (Nat.lt_succ_iff.mp fits) format]
          rfl
      | none => rfl
      | bool flag => rfl
      | float number => rfl

theorem restampItems_eq (frames : ℕ) : ∀ items, nestingItems items ≤ frames →
    (holdsHashItems items = true → formatHex64 effectiveHead = .ok hash) →
      restampItems effectiveHead frames items = .ok (movedItems effectiveHead hash items)
  | [], _, _ => rfl
  | item :: rest, fits, format => by
      unfold nestingItems at fits
      unfold holdsHashItems at format
      have both := both_parts.mpr ⟨fits, format⟩
      unfold restampItems movedItems
      rw [restampHead_eq frames item both.1.1 both.1.2, restampItems_eq frames rest both.2.1 both.2.2]
      rfl

theorem restampEntries_eq (frames : ℕ) : ∀ entries, nestingEntries entries ≤ frames →
    (holdsHashEntries entries = true → formatHex64 effectiveHead = .ok hash) →
      restampEntries effectiveHead frames entries = .ok (movedEntries effectiveHead hash entries)
  | [], _, _ => rfl
  | (key, value) :: rest, fits, format => by
      unfold nestingEntries at fits
      unfold holdsHashEntries at format
      have both := both_parts.mpr ⟨fits, format⟩
      unfold restampEntries movedEntries
      rw [restampHead_eq frames value both.1.1 both.1.2, restampEntries_eq frames rest both.2.1 both.2.2]
      rfl

end

end

/-! ### The replies -/

variable {host : Host} {request : Parsed} {scenario : Scenario} {head behind : ℤ}

/-- The two methods that answer a block. -/
inductive BlockMethod
  | getblock
  | getblockheader
  deriving DecidableEq

/-- The method in the words of the source. -/
def BlockMethod.name : BlockMethod → String
  | getblock => "getblock"
  | getblockheader => "getblockheader"

/-- The fields of the stub of a method with a hash and a height. -/
def BlockMethod.fields (kind : BlockMethod) (hash : String) (height : ℤ) : List (Key × Value) :=
  match kind with
  | getblock => [
      (.text "hash", .str hash), (.text "confirmations", .int 1), (.text "height", .int height),
      (.text "version", .int 536870912), (.text "merkleroot", .str (repeated 32 "ab")),
      (.text "time", .int 1700000000), (.text "nonce", .int 0),
      (.text "previousblockhash", .str (btcBlockHash (btcLatestBlock - 1)))]
  | getblockheader => [
      (.text "hash", .str hash), (.text "confirmations", .int 1), (.text "height", .int height),
      (.text "version", .int 536870912), (.text "time", .int 1700000000), (.text "nonce", .int 0),
      (.text "bits", .str "1d00ffff")]

theorem stub_fields (kind : BlockMethod) :
    btcMethodDefaults.get kind.name =
      some (.dict (kind.fields (btcBlockHash btcLatestBlock) btcLatestBlock)) := by
  cases kind with
  | getblock => rfl
  | getblockheader => rfl

theorem nesting_fields (kind : BlockMethod) (hash : String) (height : ℤ) :
    nesting (.dict (kind.fields hash height)) = 1 := by
  cases kind with
  | getblock => rfl
  | getblockheader => rfl

/-- The walk finds the hash and the height, and not the hash of the block before. -/
theorem moved_fields (kind : BlockMethod) (height : ℤ) (hash : String) :
    moved (.int height) hash (.dict (kind.fields (btcBlockHash btcLatestBlock) btcLatestBlock)) =
      .dict (kind.fields hash height) := by
  have root : repeated 32 "ab" ≠ btcBlockHash btcLatestBlock := by decide +kernel
  have previous : btcBlockHash (btcLatestBlock - 1) ≠ btcBlockHash btcLatestBlock := by decide +kernel
  have bits : "1d00ffff" ≠ btcBlockHash btcLatestBlock := by decide +kernel
  have numbers : 1 ≠ btcLatestBlock ∧ 536870912 ≠ btcLatestBlock ∧ 1700000000 ≠ btcLatestBlock ∧ 0 ≠ btcLatestBlock := by
    decide
  cases kind with
  | getblock => simp [BlockMethod.fields, moved, movedEntries, root, previous, numbers]
  | getblockheader => simp [BlockMethod.fields, moved, movedEntries, bits, numbers]

/-- The request asks for the block of a hash, or names none. -/
structure AsksBlock (kind : BlockMethod) (hash : Option String) (request : Parsed) : Prop where
  method : request.getD "method" (.str "unknown") = .str kind.name
  params : match hash with
    | some text => ∃ others, request.getD "params" (.list []) = .list (.str text :: others)
    | none => (request.getD "params" (.list [])).truthy = false

/-- The result of a request for a block. -/
theorem computed_block {params : Value} (room : 2 ≤ host.frames) (kind : BlockMethod) (hash : Option String)
    (given : match hash with
      | some text => ∃ others, params = .list (.str text :: others)
      | none => params.truthy = false) (height : ℤ) :
    computed host (.int height) params (.dict (kind.fields (btcBlockHash btcLatestBlock) btcLatestBlock)) (.str kind.name) =
      .ok (.dict (kind.fields (hash.getD (btcBlockHash height)) height)) := by
  have walked : restampHead (.int height) host.frames
      (.dict (kind.fields (btcBlockHash btcLatestBlock) btcLatestBlock)) =
        .ok (.dict (kind.fields (btcBlockHash height) height)) := by
    have fits : nesting (.dict (kind.fields (btcBlockHash btcLatestBlock) btcLatestBlock)) < host.frames := by
      rw [nesting_fields]
      exact room
    rw [restampHead_eq host.frames _ fits fun _ => rfl, moved_fields]
    rfl
  have other : (Value.str kind.name).eqText "getblockhash" = false := by
    cases kind with
    | getblock => rfl
    | getblockheader => rfl
  have echoes : ((Value.str kind.name).eqText "getblock" || (Value.str kind.name).eqText "getblockheader") = true := by
    cases kind with
    | getblock => rfl
    | getblockheader => rfl
  unfold computed
  rw [other, Bool.false_and, if_neg (by decide), walked, ok_bind, echoes]
  cases hash with
  | none =>
      rw [show params.truthy = false from given]
      rfl
  | some text =>
      obtain ⟨others, rfl⟩ := given
      cases kind with
      | getblock => rfl
      | getblockheader => rfl

/-- A reply that no entry of `responses` touches. -/
theorem buildSuccess_noOverride {method : String} (asks : request.getD "method" (.str "unknown") = .str method)
    (free : NoOverride scenario method) (lag : scenario .blocksBehind = .int behind) :
    buildSuccess host request scenario head = (do
      let params := request.getD "params" (.list [])
      let result ← computed host (.int (head - behind)) params ((btcMethodDefaults.get method).getD .none) (.str method)
      if (Value.str method).eqText "getblockhash" && params.truthy then
        match ← namedHash host params with
        | some hash => pure {
            status := scenario .httpStatus, body := resultEnvelope (request.getD "id" (.int 1)) (.str hash) }
        | none =>
            let error ← tableItem btcErrorStubs (.str "invalid_parameter")
            pure { status := .int 200, body := errorEnvelope (request.getD "id" (.int 1)) error }
      else pure { status := scenario .httpStatus, body := resultEnvelope (request.getD "id" (.int 1)) result }) := by
  have result : resultOf btcMethodDefaults (.dict []) (.str method) =
      .ok ((btcMethodDefaults.get method).getD .none) := resultOf_eq btcMethodDefaults [] rfl
  have own : inResponses (responsesOf scenario) (.str method) = .ok false := by
    obtain ⟨entries, responses, absent, -⟩ := free
    have has : hasOwn entries (.str method) = false := by
      unfold hasOwn Dict.has
      dsimp only
      rw [absent]
      rfl
    rw [responses, inResponses_eq entries rfl, has]
  rw [buildSuccess_eq, asks, front_noOverride free]
  unfold rest
  dsimp only
  rw [asks, lag, result, ok_bind, Host.sub_int, ok_bind, own, ok_bind]
  exact if_neg (by decide)

/-- **The reply to a request for a block.** -/
theorem block_reply (room : 2 ≤ host.frames) {kind : BlockMethod} {hash : Option String} (asks : AsksBlock kind hash request)
    (free : NoOverride scenario kind.name) (lag : scenario .blocksBehind = .int behind) :
    buildSuccess host request scenario head = .ok {
      status := scenario .httpStatus
      body := resultEnvelope (request.getD "id" (.int 1))
        (.dict (kind.fields (hash.getD (btcBlockHash (head - behind))) (head - behind))) } := by
  have other : (Value.str kind.name).eqText "getblockhash" = false := by
    cases kind with
    | getblock => rfl
    | getblockheader => rfl
  rw [buildSuccess_noOverride asks.method free lag, stub_fields]
  dsimp only [Option.getD_some]
  rw [computed_block room kind hash asks.params, ok_bind, other, Bool.false_and, if_neg (by decide)]
  rfl

/-- The reply to `getblockhash` with a height. -/
theorem hash_reply {height : ℤ} {others : List Value}
    (asks : request.getD "method" (.str "unknown") = .str "getblockhash")
    (params : request.getD "params" (.list []) = .list (.int height :: others))
    (free : NoOverride scenario "getblockhash") (lag : scenario .blocksBehind = .int behind) :
    buildSuccess host request scenario head = .ok {
      status := scenario .httpStatus
      body := resultEnvelope (request.getD "id" (.int 1)) (.str (btcBlockHash height)) } := by
  rw [buildSuccess_noOverride asks free lag, params]
  rfl

/-! ### Consistency -/

/-- The reply to the request has this result. -/
def Replies (host : Host) (request : Parsed) (scenario : Scenario) (head : ℤ) (result : Value) : Prop :=
  ∃ content, buildSuccess host request scenario head = .ok content ∧
    content.body = resultEnvelope (request.getD "id" (.int 1)) result

/-- **A block is consistent**: where it has a hash and a height, the hash is the one of the height, and where it has the
hash of the block before, that is the one of the height before. -/
structure Consistent (result : Value) : Prop where
  hash : ∀ hash height, result.item "hash" = .ok hash → result.item "height" = .ok (.int height) →
    hash = .str (btcBlockHash height)
  previous : ∀ previous height, result.item "previousblockhash" = .ok previous →
    result.item "height" = .ok (.int height) → previous = .str (btcBlockHash (height - 1))

theorem consistent_fields {kind : BlockMethod} {hash : String} {height : ℤ} :
    Consistent (.dict (kind.fields hash height)) ↔
      hash = btcBlockHash height ∧ (kind = .getblock → height = btcLatestBlock) := by
  have theHash : (Value.dict (kind.fields hash height)).item "hash" = .ok (.str hash) := by
    cases kind with
    | getblock => rfl
    | getblockheader => rfl
  have theHeight : (Value.dict (kind.fields hash height)).item "height" = .ok (.int height) := by
    cases kind with
    | getblock => rfl
    | getblockheader => rfl
  constructor
  · intro consistent
    refine ⟨Value.str.inj (consistent.hash _ _ theHash theHeight), ?_⟩
    rintro rfl
    have before := consistent.previous _ _ rfl theHeight
    have same := btcBlockHash_injective (Value.str.inj before)
    omega
  · rintro ⟨rfl, base⟩
    constructor
    · intro found number atHash atHeight
      rw [theHash] at atHash
      rw [theHeight] at atHeight
      cases atHash
      cases atHeight
      rfl
    · intro previous number atPrevious atHeight
      rw [theHeight] at atHeight
      cases atHeight
      cases kind with
      | getblock =>
          cases atPrevious
          rw [base rfl]
      | getblockheader => cases atPrevious

/-- **The reply to a request for a block is consistent if and only if** it names no hash or the one of the head, and for
`getblock` the head is at the base height of the stub. -/
theorem consistent_iff (host : Host) (room : 2 ≤ host.frames) (head behind : ℤ) (kind : BlockMethod)
    {scenario : Scenario} (free : NoOverride scenario kind.name)
    (lag : scenario .blocksBehind = .int behind) (hash : Option String) {request : Parsed}
    (asks : AsksBlock kind hash request) :
    ∃ result, Replies host request scenario head result ∧
      (Consistent result ↔
        (∀ text ∈ hash, text = btcBlockHash (head - behind)) ∧ (kind = .getblock → head - behind = btcLatestBlock)) := by
  refine ⟨_, ⟨_, block_reply room asks free lag, rfl⟩, ?_⟩
  rw [consistent_fields]
  refine and_congr_left fun _ => ?_
  cases hash with
  | none => simp
  | some text => simp

theorem lagging_free (behind : ℤ) (method : String) : NoOverride (Eth.lagging behind) method := ⟨[], rfl, rfl, rfl⟩

/-- A request with parameters. -/
def requestWith (method : String) (params : List Value) : Parsed where
  fields := [("method", .str method), ("params", .list params)]

/-- The header of the block that the provider itself names as its best is consistent, one block behind the head. -/
theorem consistent_iff_best :
    ∃ result, Replies asciiHost (requestWith "getblockheader" [.str (btcBlockHash 849999)]) (Eth.lagging 1) 850000 result ∧
      Consistent result := by
  have asks : AsksBlock .getblockheader (some (btcBlockHash 849999))
      (requestWith "getblockheader" [.str (btcBlockHash 849999)]) := ⟨rfl, [], rfl⟩
  obtain ⟨result, replies, consistent⟩ := consistent_iff asciiHost (by decide) 850000 1 .getblockheader
    (lagging_free 1 _) rfl _ asks
  exact ⟨result, replies, consistent.mpr ⟨by simp, nofun⟩⟩

/-- The block of the hash that `getblockhash` answers for height 5 has another height, and one block behind the head the
best block names the hash of another block before it. -/
theorem block_of_another_height :
    (∃ hash result, Replies asciiHost (requestWith "getblockhash" [.int 5]) (Eth.lagging 0) 850000 (.str hash) ∧
      Replies asciiHost (requestWith "getblock" [.str hash]) (Eth.lagging 0) 850000 result ∧ ¬ Consistent result) ∧
    ∃ result, Replies asciiHost (requestWith "getblock" []) (Eth.lagging 1) 850000 result ∧ ¬ Consistent result := by
  constructor
  · have asks : AsksBlock .getblock (some (btcBlockHash 5)) (requestWith "getblock" [.str (btcBlockHash 5)]) :=
      ⟨rfl, [], rfl⟩
    have hash : Replies asciiHost (requestWith "getblockhash" [.int 5]) (Eth.lagging 0) 850000 (.str (btcBlockHash 5)) :=
      ⟨_, hash_reply rfl rfl (lagging_free 0 _) rfl, rfl⟩
    refine ⟨btcBlockHash 5, _, hash, ⟨_, block_reply (by decide) asks (lagging_free 0 _) rfl, rfl⟩, ?_⟩
    rw [consistent_fields]
    rintro ⟨same, -⟩
    exact absurd (btcBlockHash_injective same) (by decide)
  · have asks : AsksBlock .getblock none (requestWith "getblock" []) := ⟨rfl, rfl⟩
    refine ⟨_, ⟨_, block_reply (by decide) asks (lagging_free 1 _) rfl, rfl⟩, ?_⟩
    rw [consistent_fields]
    rintro ⟨-, base⟩
    exact absurd (base rfl) (by decide)

end ProviderSimulator.Chains.Btc
