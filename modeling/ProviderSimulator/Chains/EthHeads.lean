/-
**The heights that Ethereum reports.**

`eth_blockNumber`, the tags of `eth_getBlockByNumber` and the null answer for a block above the head all come from the
head of the chain less `blocks_behind`, which has a sign. The height is written in capitals after `0x`, and read back by
`_parse_block_number`.

* `blockNumber_reply` and `block_reply` — the two replies, where no entry of `responses` applies;
* `heads_agree` — **a provider that is not level answers null exactly above the height that it reports**;
* `quantity_iff` — **a height that it reports is a well-formed quantity if and only if it is not negative.**
-/

import Mathlib.Tactic.Common
import Mathlib.Tactic.IntervalCases
import ProviderSimulator.Python.Numerals
import ProviderSimulator.Chains.Answers

namespace ProviderSimulator.Chains

open ProviderSimulator.Lib ProviderSimulator.Python ProviderSimulator.Domain ProviderSimulator.Stubs

/-- No entry of `responses` applies to the method. -/
def NoOverride (scenario : Scenario) (method : String) : Prop :=
  ∃ entries, responsesOf scenario = .dict entries ∧ Dict.get entries (.text method) = none ∧
    Dict.get entries (.text "default") = none

/-- The entry that a chain reads is the empty one then. -/
theorem front_noOverride {stubs : Dict String Value} {scenario : Scenario} {method : String}
    (none : NoOverride scenario method) (requestId : Value) (rest : Value → Except PyError Content) :
    front stubs (responsesOf scenario) (.str method) requestId rest = rest (.dict []) := by
  obtain ⟨entries, responses, own, default⟩ := none
  have entry : methodCfgOf (.dict entries) (.str method) = .ok (.dict []) := by
    rw [methodCfgOf_eq entries rfl]
    unfold entryAt
    dsimp only
    rw [own, default]
    rfl
  unfold front
  rw [responses, entry]
  rfl

theorem resultEnvelope_inj {requestId first second : Value}
    (same : resultEnvelope requestId first = resultEnvelope requestId second) : first = second := by
  injection same with entries
  injection entries with _ rest
  injection rest with _ rest
  injection rest with last
  exact (Prod.mk.inj last).2

namespace Eth

variable {host : Host} {request : Parsed} {scenario : Scenario} {quirks : Quirks} {head behind : ℤ}

/-! ### The replies -/

/-- A height as `_hex_upper` writes it. -/
def hexText (height : ℤ) : String := "0x" ++ String.ofList ((hexDigits height).map Char.toUpper)

theorem hexUpper_int (height : ℤ) : hexUpper (.int height) = .ok (.str (hexText height)) := rfl

/-- The reply to `eth_blockNumber`. -/
theorem blockNumber_reply (method : request.getD "method" (.str "unknown") = .str "eth_blockNumber")
    (none : NoOverride scenario "eth_blockNumber") (lag : scenario .blocksBehind = .int behind) :
    buildSuccess host request scenario quirks head = .ok {
      status := scenario .httpStatus
      body := resultEnvelope (request.getD "id" (.int 1)) (.str (hexText (head - behind))) } := by
  have number : host.sub (.int head) (.int behind) >>= hexUpper = .ok (.str (hexText (head - behind))) := by
    rw [Host.sub_int]
    rfl
  rw [buildSuccess_eq, method, front_noOverride none]
  unfold rest resultStage numberStage
  rw [method, lag]
  change ((host.sub (.int head) (.int behind) >>= hexUpper) >>= _) >>= _ = _
  rw [number]
  rfl

/-- The heights that the tags name. -/
def named (height : ℤ) : Dict String Value :=
  [("latest", .str (hexText height)), ("earliest", .str "0x0"), ("pending", .str (hexText (height + 1))),
    ("safe", .str (hexText height)), ("finalized", .str (hexText (height - 1)))]

/-- The number of a block that is asked for: what a tag names, or the parameter as it was sent. -/
def shown (height : ℤ) (wanted : Value) : Value :=
  match wanted with
  | .str name => ((named height).get name).getD wanted
  | other => other

/-- The parameter is a number above the height, and the provider is not level with the chain. -/
def beyond (host : Host) (behind height : ℤ) (wanted : Value) : Bool :=
  match parseBlockNumber host wanted with
  | some number => decide (behind ≠ 0 ∧ height < number)
  | none => false

theorem aboveHead_int (wanted : Value) (others : List Value) (height : ℤ) :
    aboveHead host (.int behind) (.int height) (.list (wanted :: others)) = .ok (beyond host behind height wanted) := by
  unfold aboveHead beyond
  by_cases level : behind = 0
  · have zero : (Value.int behind).eqInt 0 = true := decide_eq_true level
    rw [zero, if_pos rfl]
    cases parseBlockNumber host wanted with
    | none => rfl
    | some number => simp [level, pure, Except.pure]
  · have lagging : (Value.int behind).eqInt 0 = false := decide_eq_false level
    rw [lagging, if_neg (by decide)]
    change (match parseBlockNumber host wanted with
      | some requested => (Value.int height).less (.int requested)
      | none => pure false) = _
    cases parseBlockNumber host wanted with
    | none => rfl
    | some number => simp [level, Value.less_int]

theorem namedNumber_int {wanted : Value} (hashable : wanted.hashable = true) (height : ℤ) :
    namedNumber host (.int height) wanted = .ok (shown height wanted) := by
  unfold namedNumber
  simp only [Host.add_int, Host.sub_int, hexUpper_int, ok_bind]
  change (tableGet (named height) wanted >>= fun found => pure (found.getD wanted)) = _
  cases wanted with
  | list items => cases hashable
  | dict entries => cases hashable
  | str name => rfl
  | none => rfl
  | bool flag => rfl
  | int number => rfl
  | float number => rfl

/-- The block of `ETH_METHOD_DEFAULTS`. -/
def blockEntries : List (Key × Value) :=
  match block ethLatestBlock with
  | .dict entries => entries
  | _ => []

/-- The reply to `eth_getBlockByNumber`. -/
theorem block_reply {wanted : Value} {others : List Value} (hashable : wanted.hashable = true)
    (method : request.getD "method" (.str "unknown") = .str "eth_getBlockByNumber")
    (params : request.getD "params" (.list []) = .list (wanted :: others))
    (none : NoOverride scenario "eth_getBlockByNumber") (lag : scenario .blocksBehind = .int behind) :
    buildSuccess host request scenario quirks head = .ok {
      status := scenario .httpStatus
      body := resultEnvelope (request.getD "id" (.int 1))
        (if beyond host behind (head - behind) wanted then .none
          else .dict (Dict.set blockEntries (.text "number") (shown (head - behind) wanted))) } := by
  have result : getBlockByNumber host head (.int behind) (.list (wanted :: others)) (.dict blockEntries) =
      .ok (if beyond host behind (head - behind) wanted then .none
        else .dict (Dict.set blockEntries (.text "number") (shown (head - behind) wanted))) := by
    unfold getBlockByNumber
    rw [Host.sub_int, ok_bind, hexUpper_int, ok_bind, aboveHead_int, ok_bind]
    by_cases above : beyond host behind (head - behind) wanted = true
    · rw [if_pos above, if_pos above]
      rfl
    · rw [if_neg above, if_neg above]
      change (namedNumber host (.int (head - behind)) wanted >>= _) = _
      rw [namedNumber_int hashable]
      rfl
  rw [buildSuccess_eq, method, front_noOverride none]
  unfold rest resultStage blockStage
  rw [method, lag, params]
  change (getBlockByNumber host head (.int behind) (.list (wanted :: others)) (.dict blockEntries) >>= _) >>= _ = _
  rw [result]
  rfl

/-! ### Numbers and tags -/

/-- A text of hexadecimal digits after `0x`, and its number. -/
def HexText (host : Host) (text : String) (number : ℕ) : Prop :=
  ∃ chars values, text = String.ofList ('0' :: 'x' :: chars) ∧ chars ≠ [] ∧ host.Reads 16 chars values ∧
    Radix.number 16 values = number

/-- The parameter is the number, as an integer or as a hexadecimal text. -/
def Numbers (host : Host) (wanted : Value) (number : ℕ) : Prop :=
  wanted = .int number ∨ ∃ text, wanted = .str text ∧ HexText host text number

theorem hexText_eq (height : ℤ) :
    hexText height = String.ofList ('0' :: 'x' :: (hexDigits height).map Char.toUpper) := by
  rw [← String.toList_inj]
  simp [hexText]

theorem hexText_zero : hexText 0 = "0x0" := by decide +kernel

/-- The text of a height that is not negative. -/
theorem hexText_reads (host : Host) (height : ℕ) : HexText host (hexText height) height := by
  obtain ⟨values, reads, same⟩ := host.reads_upperHex height
  refine ⟨_, values, hexText_eq height, ?_, ?_, same⟩
  · simp [hexDigits]
  · have digits : hexDigits height = Nat.toDigits 16 height := by simp [hexDigits]
    rw [digits]
    exact reads

theorem parseHeight_hexText {text : String} {number : ℕ} (hex : HexText host text number) :
    parseHeight host text = some (number : ℤ) := by
  obtain ⟨chars, values, rfl, given, reads, rfl⟩ := hex
  have marked : "0x".toList.isPrefixOf (String.ofList ('0' :: 'x' :: chars)).toList = true := by simp
  unfold parseHeight
  rw [if_pos marked, Host.parseInt_hex reads given]

theorem parseBlockNumber_numbers {wanted : Value} {number : ℕ} (is : Numbers host wanted number) :
    parseBlockNumber host wanted = some (number : ℤ) := by
  rcases is with rfl | ⟨text, rfl, hex⟩
  · rfl
  · exact parseHeight_hexText hex

/-- No tag is a number. -/
theorem shown_numbers {wanted : Value} {number : ℕ} (is : Numbers host wanted number) (height : ℤ) :
    shown height wanted = wanted := by
  rcases is with rfl | ⟨text, rfl, chars, values, rfl, -⟩
  · rfl
  · have noTag : (named height).get (String.ofList ('0' :: 'x' :: chars)) = none := by
      rw [Dict.get_eq_none_iff]
      intro member
      have front : ∀ name ∈ (named height).keys, name.toList.head? ≠ some '0' := by
        simp [named, Dict.keys]
      exact front _ member (by rw [String.toList_ofList]; rfl)
    unfold shown
    dsimp only
    rw [noTag]
    rfl

theorem hashable_numbers {wanted : Value} {number : ℕ} (is : Numbers host wanted number) : wanted.hashable = true := by
  rcases is with rfl | ⟨text, rfl, -⟩
  · rfl
  · rfl

/-! ### The head and the blocks -/

/-- The request asks for the block that the parameter names. -/
structure AsksBlock (request : Parsed) (wanted : Value) : Prop where
  method : request.getD "method" (.str "unknown") = .str "eth_getBlockByNumber"
  params : ∃ others, request.getD "params" (.list []) = .list (wanted :: others)

/-- The request asks for the number of the head. -/
def AsksNumber (request : Parsed) : Prop := request.getD "method" (.str "unknown") = .str "eth_blockNumber"

/-- The reply to the request has this result. -/
def Replies (host : Host) (request : Parsed) (scenario : Scenario) (quirks : Quirks) (head : ℤ) (result : Value) : Prop :=
  ∃ content, buildSuccess host request scenario quirks head = .ok content ∧
    content.body = resultEnvelope (request.getD "id" (.int 1)) result

/-- No entry applies to the two methods, and this is `blocks_behind`. -/
structure AtLag (scenario : Scenario) (behind : ℤ) : Prop where
  number : NoOverride scenario "eth_blockNumber"
  block : NoOverride scenario "eth_getBlockByNumber"
  lag : scenario .blocksBehind = .int behind

section

variable {wanted result : Value} (lags : AtLag scenario behind)

include lags

theorem replies_number (asks : AsksNumber request) :
    Replies host request scenario quirks head result ↔ result = .str (hexText (head - behind)) := by
  unfold Replies
  rw [blockNumber_reply asks lags.number lags.lag]
  constructor
  · rintro ⟨content, gave, body⟩
    cases gave
    exact (resultEnvelope_inj body).symm
  · rintro rfl
    exact ⟨_, rfl, rfl⟩

theorem replies_block (hashable : wanted.hashable = true) (asks : AsksBlock request wanted) :
    Replies host request scenario quirks head result ↔
      result = if beyond host behind (head - behind) wanted then .none
        else .dict (Dict.set blockEntries (.text "number") (shown (head - behind) wanted)) := by
  obtain ⟨others, params⟩ := asks.params
  unfold Replies
  rw [block_reply hashable asks.method params lags.block lags.lag]
  constructor
  · rintro ⟨content, gave, body⟩
    cases gave
    exact (resultEnvelope_inj body).symm
  · rintro rfl
    exact ⟨_, rfl, rfl⟩

end

/-- The block that a tag names has its height as the number. -/
theorem item_number (number : Value) :
    (Value.dict (Dict.set blockEntries (.text "number") number)).item "number" = .ok number := by
  unfold Value.item
  dsimp only
  rw [Dict.get_set_self]

/-- The text is what the provider reports as its head: the result of `eth_blockNumber`, or the number of the `latest` or
the `safe` block. -/
def ReportsHead (host : Host) (scenario : Scenario) (quirks : Quirks) (head : ℤ) (text : String) : Prop :=
  (∃ request, AsksNumber request ∧ Replies host request scenario quirks head (.str text)) ∨
    ∃ request tag result, (tag = "latest" ∨ tag = "safe") ∧ AsksBlock request (.str tag) ∧
      Replies host request scenario quirks head result ∧ result.item "number" = .ok (.str text)

/-- The five tags are no numbers. -/
theorem beyond_tag {tag : String} (is : tag ∈ ["latest", "earliest", "pending", "safe", "finalized"]) (height : ℤ) :
    beyond host behind height (.str tag) = false := by
  have parsed : parseHeight host tag = none := by
    simp only [List.mem_cons, List.not_mem_nil, or_false] at is
    rcases is with rfl | rfl | rfl | rfl | rfl <;> rfl
  unfold beyond
  rw [show parseBlockNumber host (.str tag) = none from parsed]

/-- Every report of the head is the one text. -/
theorem text_of_reportsHead (lags : AtLag scenario behind) {text : String}
    (reports : ReportsHead host scenario quirks head text) : text = hexText (head - behind) := by
  rcases reports with ⟨request, asks, replies⟩ | ⟨request, tag, result, which, asks, replies, number⟩
  · have same := (replies_number lags asks).mp replies
    injection same
  · have same := (replies_block lags rfl asks).mp replies
    have known : tag ∈ ["latest", "earliest", "pending", "safe", "finalized"] := by
      rcases which with rfl | rfl
      · simp
      · simp
    rw [beyond_tag known, if_neg (by decide)] at same
    rw [same, item_number] at number
    rcases which with rfl | rfl
    · injection number with number
      injection number with number
      exact number.symm
    · injection number with number
      injection number with number
      exact number.symm

/-- **A provider that is not level answers null exactly above the height that it reports.** A block that it answers has
the parameter as its number. -/
theorem heads_agree (host : Host) (quirks : Quirks) (head behind : ℤ) (apart : behind ≠ 0) {scenario : Scenario}
    (lags : AtLag scenario behind) :
    (∀ request wanted (number : ℕ), AsksBlock request wanted → Numbers host wanted number →
      ∃ result, Replies host request scenario quirks head result ∧
        (result = .none ↔ head - behind < number) ∧ (¬ head - behind < number → result.item "number" = .ok wanted)) ∧
    (0 ≤ head - behind → ∀ text, ReportsHead host scenario quirks head text →
      (∀ request, AsksBlock request (.str text) →
        ∃ result, Replies host request scenario quirks head result ∧ result ≠ .none) ∧
      ∀ request next, HexText host next (head - behind + 1).toNat → AsksBlock request (.str next) →
        Replies host request scenario quirks head .none) := by
  have answers : ∀ request wanted (number : ℕ), AsksBlock request wanted → Numbers host wanted number →
      Replies host request scenario quirks head (if head - behind < number then .none
        else .dict (Dict.set blockEntries (.text "number") wanted)) := by
    intro request wanted number asks is
    have above : beyond host behind (head - behind) wanted = decide (head - behind < (number : ℤ)) := by
      unfold beyond
      rw [parseBlockNumber_numbers is]
      simp [apart]
    refine (replies_block lags (hashable_numbers is) asks).mpr ?_
    rw [above, shown_numbers is]
    simp only [decide_eq_true_eq]
  refine ⟨fun request wanted number asks is => ⟨_, answers request wanted number asks is, ?_, fun within => ?_⟩, ?_⟩
  · by_cases above : head - behind < number
    · rw [if_pos above]
      exact iff_of_true rfl above
    · rw [if_neg above]
      exact iff_of_false nofun above
  · rw [if_neg within]
    exact item_number wanted
  · intro nonneg text reports
    obtain ⟨height, same⟩ := Int.eq_ofNat_of_zero_le nonneg
    rw [text_of_reportsHead lags reports, same]
    refine ⟨fun request asks => ?_, fun request next hex asks => ?_⟩
    · have block := answers request _ height asks (.inr ⟨_, rfl, hexText_reads host height⟩)
      rw [same, if_neg (lt_irrefl _)] at block
      exact ⟨_, block, nofun⟩
    · have block := answers request _ _ asks (.inr ⟨next, rfl, hex⟩)
      rw [same, if_pos (by omega)] at block
      exact block

/-- The default scenario, with another `blocks_behind`. -/
def lagging (behind : ℤ) : Scenario := fun field =>
  match field with
  | .blocksBehind => .int behind
  | other => other.default

theorem lagging_lags (behind : ℤ) : AtLag (lagging behind) behind :=
  ⟨⟨[], rfl, rfl, rfl⟩, ⟨[], rfl, rfl, rfl⟩, rfl⟩

/-- A request for the block of a number. -/
def blockRequest (wanted : Value) : Parsed where
  fields := [("method", .str "eth_getBlockByNumber"), ("params", .list [wanted, .bool false])]

/-- A provider that is one block ahead of the head 15 has the block 16, and not the block 17. -/
theorem heads_agree_ahead :
    (∃ result, Replies asciiHost (blockRequest (.int 16)) (lagging (-1)) (Chain.quirksDefault .eth) 15 result ∧
      result.item "number" = .ok (.int 16)) ∧
    Replies asciiHost (blockRequest (.int 17)) (lagging (-1)) (Chain.quirksDefault .eth) 15 .none := by
  obtain ⟨blocks, -⟩ := heads_agree asciiHost (Chain.quirksDefault .eth) 15 (-1) (by decide) (lagging_lags (-1))
  obtain ⟨block, replies, -, number⟩ := blocks (blockRequest (.int 16)) (.int 16) 16 ⟨rfl, _, rfl⟩ (.inl rfl)
  obtain ⟨missing, replies', null, -⟩ := blocks (blockRequest (.int 17)) (.int 17) 17 ⟨rfl, _, rfl⟩ (.inl rfl)
  rw [null.mpr (by decide)] at replies'
  exact ⟨⟨block, replies, number (by decide)⟩, replies'⟩

/-! ### Quantities -/

/-- The hexadecimal digits. -/
def hexLetters : List Char := "0123456789abcdefABCDEF".toList

/-- A well-formed quantity: hexadecimal digits after `0x`, with no zero in front. -/
def IsQuantity (text : String) : Prop :=
  ∃ chars, text = String.ofList ('0' :: 'x' :: chars) ∧ chars ≠ [] ∧ (∀ char ∈ chars, char ∈ hexLetters) ∧
    (chars.head? = some '0' → chars = ['0'])

/-- The digits of a number are digits, and only zero has a zero in front. -/
theorem upperHex_quantity (number : ℕ) :
    (∀ char ∈ (Nat.toDigits 16 number).map Char.toUpper, char ∈ hexLetters) ∧
      (((Nat.toDigits 16 number).map Char.toUpper).head? = some '0' → number = 0) := by
  induction number using Nat.strong_induction_on with
  | _ number ih =>
      have letter : ∀ digit < 16, digit.digitChar.toUpper ∈ hexLetters ∧ (digit.digitChar.toUpper = '0' → digit = 0) := by
        intro digit small
        interval_cases digit <;> decide
      rw [Nat.toDigits_eq_if (by decide)]
      by_cases last : number < 16
      · rw [if_pos last, List.map_singleton]
        refine ⟨fun char member => ?_, fun zero => ?_⟩
        · rw [List.mem_singleton.mp member]
          exact (letter number last).1
        · exact (letter number last).2 (Option.some.inj zero)
      · rw [if_neg last, List.map_append]
        obtain ⟨letters, front⟩ := ih (number / 16) (by omega)
        refine ⟨fun char member => ?_, fun zero => ?_⟩
        · rcases List.mem_append.mp member with before | after
          · exact letters char before
          · rw [List.mem_singleton.mp after]
            exact (letter _ (Nat.mod_lt _ (by decide))).1
        · rw [List.head?_append_of_ne_nil] at zero
          · have none := front zero
            omega
          · simp

/-- **The text of a height is a quantity if and only if the height is not negative.** -/
theorem isQuantity_hexText (height : ℤ) : IsQuantity (hexText height) ↔ 0 ≤ height := by
  constructor
  · rintro ⟨chars, same, -, letters, -⟩
    by_contra negative
    rw [hexText_eq, String.ofList_inj] at same
    have sign : '-' ∈ chars := by
      injection same with _ rest
      injection rest with _ rest
      rw [← rest]
      simp [hexDigits, not_le.mp negative]
    exact absurd (letters '-' sign) (by decide)
  · intro nonneg
    obtain ⟨number, rfl⟩ := Int.eq_ofNat_of_zero_le nonneg
    obtain ⟨letters, front⟩ := upperHex_quantity number
    have digits : hexDigits number = Nat.toDigits 16 number := by simp [hexDigits]
    refine ⟨_, hexText_eq number, ?_, ?_, ?_⟩
    · simp [hexDigits]
    · rw [digits]
      exact letters
    · rw [digits]
      intro zero
      rw [front zero]
      rfl

/-- A height that Ethereum reports: the result of `eth_blockNumber`, or the number of the block of a tag. -/
inductive Height
  | blockNumber
  | latest
  | earliest
  | pending
  | safe
  | finalized

namespace Height

/-- The tag in the words of the source. -/
def tag : Height → Option String
  | blockNumber => none
  | latest => some "latest"
  | earliest => some "earliest"
  | pending => some "pending"
  | safe => some "safe"
  | finalized => some "finalized"

/-- The height, of a provider with this head. -/
def of (height : ℤ) : Height → ℤ
  | earliest => 0
  | pending => height + 1
  | finalized => height - 1
  | _ => height

/-- The request asks for it. -/
def Asked (kind : Height) (request : Parsed) : Prop :=
  match kind.tag with
  | none => AsksNumber request
  | some tag => AsksBlock request (.str tag)

/-- The reply to the request reports it with this text. -/
def Reported (kind : Height) (host : Host) (request : Parsed) (scenario : Scenario) (quirks : Quirks) (head : ℤ)
    (text : String) : Prop :=
  match kind.tag with
  | none => Replies host request scenario quirks head (.str text)
  | some _ => ∃ result, Replies host request scenario quirks head result ∧ result.item "number" = .ok (.str text)

/-- The text that is reported. -/
theorem reported_iff (kind : Height) (lags : AtLag scenario behind) (asked : kind.Asked request) {text : String} :
    kind.Reported host request scenario quirks head text ↔ text = hexText (kind.of (head - behind)) := by
  -- A tag gives a block, with the height that the table has for it.
  have block : ∀ {tag : String} {height : ℤ}, tag ∈ ["latest", "earliest", "pending", "safe", "finalized"] →
      (named (head - behind)).get tag = some (.str (hexText height)) → AsksBlock request (.str tag) →
      ((∃ result, Replies host request scenario quirks head result ∧ result.item "number" = .ok (.str text)) ↔
        text = hexText height) := by
    intro tag height known names asks
    have shows : shown (head - behind) (.str tag) = .str (hexText height) := by
      unfold shown
      dsimp only
      rw [names]
      rfl
    simp only [replies_block lags rfl asks, beyond_tag known, shows, Bool.false_eq_true, if_false, exists_eq_left,
      item_number]
    constructor
    · intro same
      injection same with same
      injection same with same
      exact same.symm
    · rintro rfl
      rfl
  cases kind with
  | blockNumber =>
      have number : Replies host request scenario quirks head (.str text) ↔ _ := replies_number lags asked
      exact number.trans (Value.str.injEq _ _ ▸ Iff.rfl)
  | latest => exact block (by simp) rfl asked
  | earliest =>
      have zero : (named (head - behind)).get "earliest" = some (.str (hexText 0)) := by
        rw [hexText_zero]
        rfl
      exact block (by simp) zero asked
  | pending => exact block (by simp) rfl asked
  | safe => exact block (by simp) rfl asked
  | finalized => exact block (by simp) rfl asked

end Height

/-- **A height that is reported is a well-formed quantity if and only if it is not negative**, and it is read as itself
then. -/
theorem quantity_iff (host : Host) (quirks : Quirks) (head behind : ℤ) {scenario : Scenario}
    (lags : AtLag scenario behind) (kind : Height) (request : Parsed) (asked : kind.Asked request) :
    ∃ text, kind.Reported host request scenario quirks head text ∧
      ((IsQuantity text ∧ ∃ height : ℕ, parseHeight host text = some (height : ℤ)) ↔
        0 ≤ kind.of (head - behind)) := by
  refine ⟨_, (kind.reported_iff lags asked).mpr rfl, ?_⟩
  rw [isQuantity_hexText]
  refine ⟨And.left, fun nonneg => ⟨nonneg, ?_⟩⟩
  obtain ⟨number, same⟩ := Int.eq_ofNat_of_zero_le nonneg
  rw [same]
  exact ⟨number, parseHeight_hexText (hexText_reads host number)⟩

/-- A request for the number of the head. -/
def numberRequest : Parsed where
  fields := [("method", .str "eth_blockNumber")]

/-- The number of the head is a quantity where the provider is level with it. -/
theorem quantity_iff_level :
    Height.blockNumber.Asked numberRequest ∧ ∃ text,
      Height.blockNumber.Reported asciiHost numberRequest (lagging 0) (Chain.quirksDefault .eth) 20000000 text ∧
        IsQuantity text := by
  obtain ⟨text, reported, iff⟩ := quantity_iff asciiHost (Chain.quirksDefault .eth) 20000000 0 (lagging_lags 0)
    .blockNumber numberRequest rfl
  exact ⟨rfl, text, reported, (iff.mpr (by decide)).1⟩

/-- **A provider further behind than the head is high reports a height that is no quantity.** -/
theorem negative_height :
    Height.blockNumber.Reported asciiHost numberRequest (lagging 20000001) (Chain.quirksDefault .eth) 20000000 "0x-1" ∧
      ¬ IsQuantity "0x-1" := by
  have text : hexText (-1) = "0x-1" := by decide +kernel
  have asked : Height.blockNumber.Asked numberRequest := rfl
  refine ⟨(Height.reported_iff .blockNumber (lagging_lags 20000001) asked).mpr text.symm, ?_⟩
  rw [← text, isQuantity_hexText]
  decide

end Eth

end ProviderSimulator.Chains
