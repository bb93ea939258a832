/-
**`POST /scenario` is all or nothing.**

The check loop decides everything: what it lets through, the write loop can write.

* `checkBlocks_eq_ok` — each block that passed (`Passed`): its provider, the values that it gives to the
  fields that it names (`readFields_eq_ok`), and the rules that let it through;
* `writeProvider_of_valid` — the write of a block that passed does not fail, since `update` asks the
  rules that the check loop asked, and no rule reads what another provider stores;
* `portWishes_ok` — the wishes of a provider can be read, since the filters of a stored block can;
* `writeAll_of_passed` — so the write loop ends, and each provider has its own block.

`all_or_nothing` puts these together: a call with another answer than 200 and 500, or with none, leaves
every provider as it was; a call that answers 200 or 500 has written each block, and nothing else.
-/

import Mathlib.Tactic.Common
import Mathlib.Data.List.Forall2
import ProviderSimulator.Control.ApplyScenario

namespace ProviderSimulator.Control

open ProviderSimulator.Lib ProviderSimulator.Python ProviderSimulator.Domain
open ProviderSimulator.FaultPolicy

/-! ### Keys -/

theorem splitColon_eq_some {chars first second : List Char}
    (split : splitColon chars = some (first, second)) : chars = first ++ ':' :: second := by
  induction chars generalizing first with
  | nil => cases split
  | cons char rest ih =>
      unfold splitColon at split
      split at split
      · next colon =>
          cases split
          rw [colon, List.nil_append]
      · obtain ⟨parts, found, same⟩ := Option.map_eq_some_iff.mp split
        cases same
        rw [List.cons_append, ih found]

theorem splitColon_append {first : List Char} (second : List Char) (plain : ':' ∉ first) :
    splitColon (first ++ ':' :: second) = some (first, second) := by
  induction first with
  | nil => rfl
  | cons char rest ih =>
      rw [List.mem_cons, not_or] at plain
      rw [List.cons_append, splitColon, if_neg (Ne.symm plain.1), ih plain.2]
      rfl

/-- A key is the text of the provider that it names. -/
theorem partitionKey_text {key : String} {parts : ProviderKey}
    (split : partitionKey key = some parts) : parts.text = key := by
  obtain ⟨⟨first, second⟩, found, rfl⟩ := Option.map_eq_some_iff.mp split
  apply String.toList_injective
  rw [splitColon_eq_some found]
  simp [ProviderKey.text]

/-- The text of a provider whose pool name is plain is split into the two names. -/
theorem partitionKey_of_plain {parts : ProviderKey} (plain : ':' ∉ parts.pool.toList) :
    partitionKey parts.text = some parts := by
  have chars : parts.text.toList = parts.pool.toList ++ ':' :: parts.pid.toList := by
    simp [ProviderKey.text]
  rw [partitionKey, chars, splitColon_append _ plain]
  simp

/-! ### The fields of a block -/

theorem ScenarioField.ofName_name (field : ScenarioField) :
    ScenarioField.ofName field.name = some field := by
  cases field <;> rfl

theorem ofName_quirks (field : QuirksField) : ScenarioField.ofName field.name = none := by
  cases field <;> rfl

theorem quirksField_name {chain : Chain} {field : QuirksField} (declared : field ∈ chain.quirksFields) :
    chain.quirksField field.name = some field := by
  cases chain <;> cases field <;> first | rfl | (revert declared; decide)

theorem quirksField_mem {chain : Chain} {name : String} {field : QuirksField}
    (found : chain.quirksField name = some field) : field ∈ chain.quirksFields :=
  List.mem_of_find?_eq_some found

/-- The value that a field stores for a value of the body: `responses` in its normal form. -/
def StoredForm (field : ScenarioField) (value stored : Value) : Prop :=
  if field = .responses then normaliseResponses value = .ok stored else stored = value

/-- What one field of a block does. -/
theorem readField_eq_ok {key name : String} {chain : Chain} {updates read : Updates} {value : Value}
    (passed : readField key chain updates name value = .ok read) :
    (∃ field stored, ScenarioField.ofName name = some field ∧ StoredForm field value stored ∧
      read = { updates with scenario := updates.scenario.set field stored }) ∨
    (∃ field, ScenarioField.ofName name = none ∧ chain.quirksField name = some field ∧
      read = { updates with quirks := updates.quirks.set field value }) := by
  unfold readField at passed
  split at passed
  · next same =>
      obtain ⟨stored, normal, later⟩ := bind_eq_ok passed
      cases later
      subst same
      exact .inl ⟨.responses, stored, rfl, mapRefusal_eq_ok normal, rfl⟩
  · next other =>
      split at passed
      · next field found =>
          obtain ⟨_, -, later⟩ := bind_eq_ok passed
          obtain ⟨_, -, last⟩ := bind_eq_ok later
          cases last
          have named := ScenarioField.ofName_eq_some found
          have notResponses : field ≠ .responses := by
            rintro rfl
            exact other named.symm
          exact .inl ⟨field, value, found, by rw [StoredForm, if_neg notResponses], rfl⟩
      · next unknown =>
          split at passed
          · next field found =>
              obtain ⟨_, -, later⟩ := bind_eq_ok passed
              cases later
              exact .inr ⟨field, unknown, found, rfl⟩
          · cases passed

/-- What the fields of a block give, over what was given before. -/
structure Reads (chain : Chain) (members : Dict String Value) (before after : Updates) : Prop where
  scenario : ∀ field : ScenarioField, match members.get field.name with
    | none => after.scenario.items.get field = before.scenario.items.get field
    | some value => ∃ stored, after.scenario.items.get field = some stored ∧
        StoredForm field value stored
  quirks : ∀ field, after.quirks.items.get field =
    if field ∈ chain.quirksFields then (members.get field.name).or (before.quirks.items.get field)
    else before.quirks.items.get field
  known : ∀ name ∈ members.keys,
    (ScenarioField.ofName name).isSome ∨ (chain.quirksField name).isSome

namespace Reads

theorem nil (chain : Chain) (updates : Updates) : Reads chain [] updates updates := by
  refine ⟨fun field => rfl, fun field => ?_, fun name member => by cases member⟩
  split <;> simp

/-- A block with one more field of the scenario in front. -/
theorem cons_scenario {chain : Chain} {rest : Dict String Value} {before after : Updates}
    {name : String} {value stored : Value} {field : ScenarioField} (fresh : name ∉ rest.keys)
    (found : ScenarioField.ofName name = some field) (form : StoredForm field value stored)
    (reads : Reads chain rest { before with scenario := before.scenario.set field stored } after) :
    Reads chain ((name, value) :: rest) before after := by
  have named := ScenarioField.ofName_eq_some found
  have unread : Dict.get rest field.name = none := by
    rw [named]
    exact (Dict.get_eq_none_iff rest name).mpr fresh
  refine ⟨fun other => ?_, fun quirk => ?_, fun wanted member => ?_⟩
  · have later := reads.scenario other
    by_cases same : other = field
    · subst same
      rw [unread] at later
      rw [Dict.get_cons, if_pos named.symm]
      exact ⟨stored, later.trans (Dict.get_set_self _ _ _), form⟩
    · have differ : name ≠ other.name := by
        intro equal
        rw [equal, ScenarioField.ofName_name] at found
        cases found
        exact same rfl
      rw [Dict.get_cons, if_neg differ]
      have kept : (before.scenario.set field stored).items.get other =
          before.scenario.items.get other := Dict.get_set_of_ne _ (Ne.symm same) _
      simp only [kept] at later
      exact later
  · have differ : name ≠ quirk.name := by
      intro equal
      rw [equal, ofName_quirks] at found
      cases found
    rw [reads.quirks quirk, Dict.get_cons, if_neg differ]
  · rcases List.mem_cons.mp member with here | later
    · subst here
      exact .inl (by rw [found]; rfl)
    · exact reads.known wanted later

/-- A block with one more quirk in front. -/
theorem cons_quirks {chain : Chain} {rest : Dict String Value} {before after : Updates}
    {name : String} {value : Value} {field : QuirksField} (fresh : name ∉ rest.keys)
    (unknown : ScenarioField.ofName name = none) (found : chain.quirksField name = some field)
    (reads : Reads chain rest { before with quirks := before.quirks.set field value } after) :
    Reads chain ((name, value) :: rest) before after := by
  have named := Chain.quirksField_eq_some found
  have unread : Dict.get rest field.name = none := by
    rw [named]
    exact (Dict.get_eq_none_iff rest name).mpr fresh
  refine ⟨fun other => ?_, fun quirk => ?_, fun wanted member => ?_⟩
  · have differ : name ≠ other.name := by
      intro equal
      rw [equal, ScenarioField.ofName_name] at unknown
      cases unknown
    rw [Dict.get_cons, if_neg differ]
    exact reads.scenario other
  · rw [reads.quirks quirk]
    by_cases same : quirk = field
    · subst same
      rw [if_pos (quirksField_mem found), if_pos (quirksField_mem found), unread, Dict.get_cons,
        if_pos named.symm]
      exact Dict.get_set_self _ _ _
    · have kept : (before.quirks.set field value).items.get quirk = before.quirks.items.get quirk :=
        Dict.get_set_of_ne _ (Ne.symm same) _
      split
      · next declared =>
          have differ : name ≠ quirk.name := by
            intro equal
            rw [equal, quirksField_name declared] at found
            cases found
            exact same rfl
          rw [Dict.get_cons, if_neg differ, kept]
      · exact kept
  · rcases List.mem_cons.mp member with here | later
    · subst here
      exact .inr (by rw [found]; rfl)
    · exact reads.known wanted later

end Reads

/-- **A block that is read gives each field that it names its value, and no other.** -/
theorem readFields_eq_ok {key : String} {chain : Chain} {members : Dict String Value}
    (distinct : members.keys.Nodup) {before after : Updates}
    (passed : readFields key chain members before = .ok after) : Reads chain members before after := by
  induction members generalizing before with
  | nil =>
      cases passed
      exact Reads.nil chain _
  | cons item rest ih =>
      obtain ⟨name, value⟩ := item
      rw [Dict.keys_cons, List.nodup_cons] at distinct
      obtain ⟨read, first, later⟩ := bind_eq_ok passed
      have reads := ih distinct.2 later
      rcases readField_eq_ok first with ⟨field, stored, found, form, rfl⟩ | ⟨field, unknown, found, rfl⟩
      · exact Reads.cons_scenario distinct.1 found form reads
      · exact Reads.cons_quirks distinct.1 unknown found reads

/-! ### Numbers -/

/-- Each field read so far, `responses` apart, passed the rules of its number. -/
def NumbersGiven (updates : Updates) : Prop :=
  ∀ field value, field ≠ .responses → updates.scenario.items.get field = some value →
    badNumber field.name value = .ok ()

theorem badNumber_failFirstN {value : Value} (passed : badNumber "fail_first_n" value = .ok ()) :
    isCount value = true := by
  obtain ⟨_, -, later⟩ := bind_eq_ok passed
  obtain ⟨_, count, -⟩ := bind_eq_ok later
  have flag := refuseIf_eq_ok count
  cases held : isCount value with
  | true => rfl
  | false =>
      rw [held] at flag
      revert flag
      decide

theorem badNumber_errorProbability {value : Value}
    (passed : badNumber "error_probability" value = .ok ()) : isProbability value = true := by
  obtain ⟨_, probability, -⟩ := bind_eq_ok passed
  have flag := refuseIf_eq_ok probability
  cases held : isProbability value with
  | true => rfl
  | false =>
      rw [held] at flag
      revert flag
      decide

theorem NumbersGiven.count {updates : Updates} (given : NumbersGiven updates) (value : Value)
    (here : updates.scenario.items.get .failFirstN = some value) : isCount value = true :=
  badNumber_failFirstN (given .failFirstN value nofun here)

theorem readField_numbersGiven {key name : String} {chain : Chain} {updates read : Updates}
    {value : Value} (passed : readField key chain updates name value = .ok read)
    (given : NumbersGiven updates) : NumbersGiven read := by
  unfold readField at passed
  split at passed
  · obtain ⟨stored, -, later⟩ := bind_eq_ok passed
    cases later
    intro field found other here
    rw [Block.set, Dict.get_set_of_ne _ (Ne.symm other)] at here
    exact given field found other here
  · split at passed
    · next field named =>
        obtain ⟨_, -, later⟩ := bind_eq_ok passed
        obtain ⟨_, number, last⟩ := bind_eq_ok later
        cases last
        intro wanted found other here
        rw [Block.set, Dict.get_set] at here
        split at here
        · next same =>
            subst same
            cases here
            rw [ScenarioField.ofName_eq_some named]
            exact mapRefusal_eq_ok number
        · exact given wanted found other here
    · split at passed
      · obtain ⟨_, -, later⟩ := bind_eq_ok passed
        cases later
        exact given
      · cases passed

theorem readFields_numbersGiven {key : String} {chain : Chain} {members : List (String × Value)}
    {updates read : Updates} (passed : readFields key chain members updates = .ok read)
    (given : NumbersGiven updates) : NumbersGiven read := by
  induction members generalizing updates with
  | nil =>
      cases passed
      exact given
  | cons item rest ih =>
      obtain ⟨between, first, later⟩ := bind_eq_ok passed
      exact ih later (readField_numbersGiven first given)

/-! ### Blocks that passed -/

/-- A block that the check loop let through, and what it stages. -/
structure Passed (layout : Layout) (state : Stored) (key : String) (entries : List (Key × Value))
    (staged : Staged) : Prop where
  named : partitionKey key = some staged.provider.key
  served : layout.registry.provider staged.provider.key.pool staged.provider.key.pid =
    .ok staged.provider
  reads : Reads staged.provider.chain (Value.members entries) ⟨.empty, .empty⟩
    ⟨staged.scenario, staged.quirks⟩
  numbers : NumbersGiven ⟨staged.scenario, staged.quirks⟩
  rules : blockRules staged.provider (state staged.provider.key).scenario.values staged.scenario
    layout.gated = .ok ()
  scenario : validate staged.scenario = .ok ()
  quirks : validateQuirks staged.quirks staged.provider.chain = .ok ()

section

variable {layout : Layout} {state : Stored}

theorem lookUp_eq_ok {key : ProviderKey} {provider : Provider}
    (found : lookUp layout key = .ok provider) :
    layout.registry.provider key.pool key.pid = .ok provider := by
  unfold lookUp at found
  split at found
  · next served =>
      cases found
      exact served
  · cases found

/-- **A block that passes its turn of the check loop.** -/
theorem checkBlock_eq_ok {key : String} {block : Value} {staged : Staged} (formed : block.WellFormed)
    (passed : checkBlock layout state key block = .ok staged) :
    ∃ entries, block = .dict entries ∧ Passed layout state key entries staged := by
  unfold checkBlock at passed
  split at passed
  · next entries =>
      split at passed
      · cases passed
      · next parts split =>
          obtain ⟨provider, looked, later⟩ := bind_eq_ok passed
          obtain ⟨updates, read, last⟩ := bind_eq_ok later
          have served := lookUp_eq_ok looked
          have reads := readFields_eq_ok (Value.members_names_nodup formed.1) read
          obtain ⟨_, rules, afterRules⟩ := bind_eq_ok last
          obtain ⟨_, scenario, afterScenario⟩ := bind_eq_ok afterRules
          obtain ⟨_, quirks, done⟩ := bind_eq_ok afterScenario
          cases done
          have same := Registry.provider_key served
          refine ⟨entries, rfl, ?_, ?_, reads, ?_, mapRefusal_eq_ok rules, mapRefusal_eq_ok scenario,
            mapRefusal_eq_ok quirks⟩
          · rw [split]
            exact congrArg some same.symm
          · rw [same]
            exact served
          · exact readFields_numbersGiven read fun field value other here => by cases here
  · cases passed

/-- **Every block of a body that passes.** -/
theorem checkBlocks_eq_ok {blocks : List (String × Value)} {staged : List Staged}
    (formed : ∀ item ∈ blocks, item.2.WellFormed)
    (passed : checkBlocks layout state blocks = .ok staged) :
    List.Forall₂ (fun item staged => ∃ entries, item.2 = .dict entries ∧
      Passed layout state item.1 entries staged) blocks staged := by
  induction blocks generalizing staged with
  | nil =>
      cases passed
      exact .nil
  | cons item rest ih =>
      obtain ⟨key, block⟩ := item
      obtain ⟨first, one, later⟩ := bind_eq_ok passed
      obtain ⟨others, rest_passed, done⟩ := bind_eq_ok later
      cases done
      refine .cons (checkBlock_eq_ok (formed _ List.mem_cons_self) one) (ih ?_ rest_passed)
      exact fun item member => formed item (List.mem_cons_of_mem _ member)

/-! ### The writes -/

/-- What a block leaves in a provider. -/
def afterBlock (staged : Staged) (now : ℚ) (old : ProviderState) (written : ScenarioConfig) :
    ProviderState :=
  { old with
    scenario := written
    lastWriteAt := some now
    quirks := staged.quirks.over old.quirks
    failCount := if staged.scenario.names .failFirstN then 0 else old.failCount }

/-- The two configs of a block that passes its checks are written. -/
theorem writeConfigs_of_valid {staged : Staged} (scenario : validate staged.scenario = .ok ())
    (quirks : validateQuirks staged.quirks staged.provider.chain = .ok ()) (now : ℚ)
    (old : ProviderState) :
    ∃ written : ScenarioConfig, written.values = staged.scenario.over old.scenario.values ∧
      writeConfigs staged now old =
        ⟨{ old with
            scenario := written
            lastWriteAt := some now
            quirks := staged.quirks.over old.quirks }, none⟩ := by
  obtain ⟨written, updated, values⟩ := old.scenario.update_of_validate scenario
  refine ⟨written, values, ?_⟩
  have scenarioWritten : old.updateScenario staged.scenario now =
      .ok { old with scenario := written, lastWriteAt := some now } := by
    unfold ProviderState.updateScenario
    rw [updated]
    rfl
  have quirksWritten : ∀ between : ProviderState,
      between.updateQuirks staged.provider.chain staged.quirks =
        .ok { between with quirks := staged.quirks.over between.quirks } := by
    intro between
    unfold ProviderState.updateQuirks updateQuirks
    rw [quirks]
    rfl
  unfold writeConfigs
  rw [scenarioWritten]
  by_cases unnamed : staged.quirks.items.isEmpty
  · have unchanged : staged.quirks.over old.quirks = old.quirks := by
      rw [Block.over, List.isEmpty_iff.mp unnamed, assign_nil]
    simp only [unnamed, if_true, unchanged]
  · simp only [unnamed, quirksWritten]
    rfl

/-- **The write of a block that passes its checks does not fail.** -/
theorem writeProvider_of_valid {staged : Staged} (scenario : validate staged.scenario = .ok ())
    (quirks : validateQuirks staged.quirks staged.provider.chain = .ok ()) (now : ℚ)
    (old : ProviderState) :
    ∃ written : ScenarioConfig, written.values = staged.scenario.over old.scenario.values ∧
      writeProvider staged now old = ⟨afterBlock staged now old written, none⟩ := by
  unfold writeProvider afterBlock
  by_cases counted : staged.scenario.names .failFirstN
  · rw [if_pos counted, if_pos counted]
    exact writeConfigs_of_valid scenario quirks now old.resetFail
  · rw [if_neg counted, if_neg counted]
    exact writeConfigs_of_valid scenario quirks now old

/-- **The wishes of a provider can be read.** -/
theorem portWishes_ok (layout : Layout) (state : Stored) (endpoints : List Endpoint) :
    ∃ wishes, portWishes layout state endpoints = .ok wishes := by
  induction endpoints with
  | nil => exact ⟨[], rfl⟩
  | cons endpoint rest ih =>
      obtain ⟨others, read⟩ := ih
      unfold portWishes
      split
      · exact ⟨others, read⟩
      · next gate found =>
          obtain ⟨closed, decided⟩ :=
            portClosed_of_stored (state gate.provider).scenario.stored gate.endpoint
          rw [decided, read]
          exact ⟨_, rfl⟩

/-- What the write loop leaves: each staged provider has its own block, and no other is touched. -/
structure BlocksWritten (clock : ProviderKey → ℚ) (staged : List Staged) (state next : Stored) :
    Prop where
  others : ∀ key, key ∉ staged.map (fun block => block.provider.key) → next key = state key
  blocks : ∀ block ∈ staged, ∃ written : ScenarioConfig,
    written.values = block.scenario.over (state block.provider.key).scenario.values ∧
      next block.provider.key =
        afterBlock block (clock block.provider.key) (state block.provider.key) written

/-- **The write loop of blocks that passed ends, and writes each block.** -/
theorem writeAll_of_passed {base : Stored} (clock : ProviderKey → ℚ) {staged : List Staged}
    (distinct : (staged.map fun block => block.provider.key).Nodup)
    (passed : ∀ block ∈ staged, ∃ key entries, Passed layout base key entries block)
    (state : Stored) (written : Written) :
    ∃ next result, writeAll layout clock staged state written = (next, .ok result) ∧
      BlocksWritten clock staged state next := by
  induction staged generalizing state written with
  | nil => exact ⟨state, written, rfl, fun _ _ => rfl, fun block member => by cases member⟩
  | cons first rest ih =>
      rw [List.map_cons, List.nodup_cons] at distinct
      obtain ⟨key, entries, firstPassed⟩ := passed first List.mem_cons_self
      obtain ⟨config, values, write⟩ := writeProvider_of_valid firstPassed.scenario
        firstPassed.quirks (clock first.provider.key) (state first.provider.key)
      let between := Function.update state first.provider.key
        (afterBlock first (clock first.provider.key) (state first.provider.key) config)
      obtain ⟨wishes, wished⟩ := portWishes_ok layout between first.provider.endpoints
      obtain ⟨next, result, done, later⟩ := ih distinct.2
        (fun block member => passed block (List.mem_cons_of_mem _ member)) between
        ⟨written.wishes ++ wishes, written.applied ++ [(first.provider.key, echo first)]⟩
      refine ⟨next, result, ?_, fun other absent => ?_, fun block member => ?_⟩
      · unfold writeAll
        simp only [write]
        rw [wished]
        exact done
      · rw [List.map_cons, List.mem_cons, not_or] at absent
        rw [later.others other absent.2]
        exact Function.update_of_ne absent.1 _ _
      · rcases List.mem_cons.mp member with here | inRest
        · subst here
          refine ⟨config, values, ?_⟩
          rw [later.others _ distinct.1]
          exact Function.update_self _ _ _
        · obtain ⟨inner, innerValues, innerWritten⟩ := later.blocks block inRest
          have apart : block.provider.key ≠ first.provider.key := fun same =>
            distinct.1 (same ▸ List.mem_map.mpr ⟨block, inRest, rfl⟩)
          have kept : between block.provider.key = state block.provider.key :=
            Function.update_of_ne apart _ _
          rw [kept] at innerValues innerWritten
          exact ⟨inner, innerValues, innerWritten⟩

/-! ### The call -/

/-- The blocks of a body, one by one with what they stage. -/
abbrev BlocksPassed (layout : Layout) (state : Stored) :
    List (String × Value) → List Staged → Prop :=
  List.Forall₂ fun item staged => ∃ entries, item.2 = .dict entries ∧
    Passed layout state item.1 entries staged

theorem BlocksPassed.of_block {blocks : List (String × Value)} {staged : List Staged}
    (passed : BlocksPassed layout state blocks staged) {item : String × Value}
    (member : item ∈ blocks) : ∃ block ∈ staged, ∃ entries, item.2 = .dict entries ∧
      Passed layout state item.1 entries block := by
  induction passed with
  | nil => cases member
  | cons first _ ih =>
      rcases List.mem_cons.mp member with rfl | later
      · exact ⟨_, List.mem_cons_self, first⟩
      · obtain ⟨block, inRest, found⟩ := ih later
        exact ⟨block, List.mem_cons_of_mem _ inRest, found⟩

theorem BlocksPassed.of_staged {blocks : List (String × Value)} {staged : List Staged}
    (passed : BlocksPassed layout state blocks staged) {block : Staged}
    (member : block ∈ staged) : ∃ item ∈ blocks, ∃ entries, item.2 = .dict entries ∧
      Passed layout state item.1 entries block := by
  induction passed with
  | nil => cases member
  | cons first _ ih =>
      rcases List.mem_cons.mp member with rfl | later
      · exact ⟨_, List.mem_cons_self, first⟩
      · obtain ⟨item, inRest, found⟩ := ih later
        exact ⟨item, List.mem_cons_of_mem _ inRest, found⟩

/-- Distinct keys of the body name distinct providers. -/
theorem BlocksPassed.distinct {blocks : List (String × Value)} {staged : List Staged}
    (passed : BlocksPassed layout state blocks staged) (names : (blocks.map Prod.fst).Nodup) :
    (staged.map fun block => block.provider.key).Nodup := by
  induction passed with
  | nil => exact List.nodup_nil
  | @cons firstItem _ _ _ first rest ih =>
      rw [List.map_cons, List.nodup_cons] at names
      refine List.nodup_cons.mpr ⟨fun member => names.1 ?_, ih names.2⟩
      obtain ⟨block, inRest, same⟩ := List.mem_map.mp member
      obtain ⟨item, inBlocks, _, -, other⟩ := BlocksPassed.of_staged rest inRest
      obtain ⟨_, -, here⟩ := first
      have named : item.1 = firstItem.1 := by
        rw [← partitionKey_text other.named, same, partitionKey_text here.named]
      exact named ▸ List.mem_map.mpr ⟨item, inBlocks, rfl⟩

/-- Did the call answer 200 or 500? -/
def Outcome.Wrote (outcome : Outcome) : Prop :=
  ∃ answer, outcome.answer = .ok answer ∧ (answer.status = 200 ∨ answer.status = 500)

theorem ControlRefusal.status_eq (refusal : ControlRefusal) :
    refusal.status = 400 ∨ refusal.status = 409 := by
  cases refusal with
  | rule key refusal => cases refusal <;> first | exact .inl rfl | exact .inr rfl
  | _ => exact .inl rfl

theorem Outcome.ofRaised_not_wrote (state : Stored) (raised : Raised ControlRefusal) :
    ¬ (Outcome.ofRaised state raised).Wrote := by
  rintro ⟨answer, answered, status⟩
  cases raised with
  | raised error => cases answered
  | refused refusal =>
      cases answered
      have refused := refusal.status_eq
      simp only [Answer.status] at status
      omega

/-- The `providers` object of a body holds no key twice, and neither do its blocks. -/
theorem providersOf_formed {body : Value} (formed : body.WellFormed) {providers : List (Key × Value)}
    (found : providersOf body = .ok providers) :
    (Dict.keys providers).Nodup ∧ Value.WellFormedEntries providers := by
  unfold providersOf at found
  split at found
  · next entries =>
      split at found
      · next inner here =>
          cases found
          exact formed.2.mem (Dict.get_mem here)
      · cases found
  · cases found

/-- **A call whose checks pass** writes each block. -/
theorem applyScenario_of_checked (layout : Layout) (settlePorts : List Wish → String)
    (clock : ProviderKey → ℚ) (state : Stored) (body : Json) {staged : List Staged}
    (checked : checkBody layout state body.value = .ok staged) :
    (applyScenario layout settlePorts clock state body).Wrote ∧
      ∃ providers, providersOf body.value = .ok providers ∧ (Dict.keys providers).Nodup ∧
        BlocksPassed layout state (Value.members providers) staged ∧
        BlocksWritten clock staged state (applyScenario layout settlePorts clock state body).state := by
  obtain ⟨providers, found, later⟩ := bind_eq_ok checked
  obtain ⟨formed, entriesFormed⟩ := providersOf_formed body.formed found
  have passed : BlocksPassed layout state (Value.members providers) staged :=
    checkBlocks_eq_ok (fun item member => entriesFormed.mem (Value.mem_members.mp member)) later
  obtain ⟨next, result, done, written⟩ := writeAll_of_passed clock
    (passed.distinct (Value.members_names_nodup formed))
    (fun block member => by
      obtain ⟨item, -, entries, -, here⟩ := passed.of_staged member
      exact ⟨item.1, entries, here⟩) state {}
  unfold applyScenario
  rw [checked]
  dsimp only
  rw [done]
  by_cases settled : settlePorts result.wishes = ""
  · simp only [settled, if_true]
    exact ⟨⟨_, rfl, .inl rfl⟩, providers, found, formed, passed, written⟩
  · simp only [settled, if_false]
    exact ⟨⟨_, rfl, .inr rfl⟩, providers, found, formed, passed, written⟩

/-- **The two ways in which a call ends.** -/
theorem applyScenario_cases (layout : Layout) (settlePorts : List Wish → String)
    (clock : ProviderKey → ℚ) (state : Stored) (body : Json) :
    (¬ (applyScenario layout settlePorts clock state body).Wrote ∧
      (applyScenario layout settlePorts clock state body).state = state) ∨
    ((applyScenario layout settlePorts clock state body).Wrote ∧
      ∃ providers staged, providersOf body.value = .ok providers ∧
        (Dict.keys providers).Nodup ∧
        BlocksPassed layout state (Value.members providers) staged ∧
        BlocksWritten clock staged state (applyScenario layout settlePorts clock state body).state) := by
  cases checked : checkBody layout state body.value with
  | error raised =>
      have ended : applyScenario layout settlePorts clock state body = .ofRaised state raised := by
        unfold applyScenario
        rw [checked]
      rw [ended]
      refine .inl ⟨Outcome.ofRaised_not_wrote state raised, ?_⟩
      cases raised <;> rfl
  | ok staged =>
      obtain ⟨wrote, providers, all⟩ := applyScenario_of_checked layout settlePorts clock state body checked
      exact .inr ⟨wrote, providers, staged, all⟩

/-! ### All or nothing -/

/-- The scenario fields, the quirks fields and the fail counter of a provider are what they were. -/
structure SameConfig (before after : ProviderState) : Prop where
  scenario : after.scenario.values = before.scenario.values
  quirks : after.quirks = before.quirks
  failCount : after.failCount = before.failCount

/-- Exactly the fields that the block names hold what it gives them. -/
structure BlockWritten (chain : Chain) (entries : List (Key × Value)) (before after : ProviderState) :
    Prop where
  /-- Each name of the block is a field of the provider. -/
  known : ∀ name, Key.text name ∈ Dict.keys entries →
    (∃ field, ScenarioField.ofName name = some field) ∨ ∃ field, chain.quirksField name = some field
  scenario : ∀ field : ScenarioField, match Dict.get entries (.text field.name) with
    | none => after.scenario.values field = before.scenario.values field
    | some value => StoredForm field value (after.scenario.values field)
  quirks : ∀ field, after.quirks field =
    if field ∈ chain.quirksFields then
      (Dict.get entries (.text field.name)).getD (before.quirks field)
    else before.quirks field
  failCount : after.failCount =
    if Dict.has entries (.text "fail_first_n") then 0 else before.failCount

theorem get_members (entries : List (Key × Value)) (name : String) :
    Dict.get (Value.members entries) name = Dict.get entries (.text name) := by
  induction entries with
  | nil => rfl
  | cons entry rest ih =>
      obtain ⟨key, value⟩ := entry
      cases key with
      | text there =>
          have head : Value.members ((.text there, value) :: rest) =
              (there, value) :: Value.members rest := rfl
          rw [head, Dict.get_cons, Dict.get_cons, ih]
          by_cases same : there = name
          · rw [if_pos same, if_pos (congrArg Key.text same)]
          · rw [if_neg same, if_neg fun equal => same (Key.text.inj equal)]
      | pair verb template =>
          have head : Value.members ((.pair verb template, value) :: rest) = Value.members rest := rfl
          rw [head, Dict.get_cons, if_neg (by simp), ih]

/-- **A block that passed, once it is written.** -/
theorem Passed.written {key : String} {entries : List (Key × Value)} {staged : Staged}
    (passed : Passed layout state key entries staged) (now : ℚ) {old : ProviderState}
    {written : ScenarioConfig} (values : written.values = staged.scenario.over old.scenario.values) :
    BlockWritten staged.provider.chain entries old (afterBlock staged now old written) := by
  refine ⟨fun name member => ?_, fun field => ?_, fun field => ?_, ?_⟩
  · have listed : name ∈ Dict.keys (Value.members entries) := by
      obtain ⟨⟨_, value⟩, inEntries, rfl⟩ := List.mem_map.mp member
      exact List.mem_map.mpr ⟨(name, value), Value.mem_members.mpr inEntries, rfl⟩
    exact (passed.reads.known name listed).imp Option.isSome_iff_exists.mp Option.isSome_iff_exists.mp
  · have read := passed.reads.scenario field
    rw [get_members] at read
    show match Dict.get entries (.text field.name) with
      | none => written.values field = old.scenario.values field
      | some value => StoredForm field value (written.values field)
    rw [values, Block.over_eq]
    cases given : Dict.get entries (.text field.name) with
    | none =>
        rw [given] at read
        rw [read]
        rfl
    | some value =>
        rw [given] at read
        obtain ⟨stored, held, form⟩ := read
        rw [held]
        exact form
  · have read := passed.reads.quirks field
    rw [get_members] at read
    show staged.quirks.over old.quirks field = _
    rw [Block.over_eq, read]
    split
    · cases Dict.get entries (.text field.name) <;> rfl
    · rfl
  · have read := passed.reads.scenario .failFirstN
    rw [get_members] at read
    show (if Dict.has staged.scenario.items .failFirstN then 0 else old.failCount) = _
    have same : Dict.has staged.scenario.items .failFirstN = Dict.has entries (.text "fail_first_n") := by
      have name : ScenarioField.failFirstN.name = "fail_first_n" := rfl
      rw [name] at read
      unfold Dict.has
      cases given : Dict.get entries (.text "fail_first_n") with
      | none =>
          rw [given] at read
          rw [read]
          rfl
      | some value =>
          rw [given] at read
          obtain ⟨stored, held, -⟩ := read
          rw [held]
          rfl
    rw [same]

end

/-- **All or nothing.** A call that answers with another status than 200 and 500, or that raises,
leaves every provider as it was. A call that answers 200 or 500 has written the block of each provider
that the body names, exactly the fields that it names, and no other provider. -/
theorem all_or_nothing (layout : Layout) (settlePorts : List Wish → String) (clock : ProviderKey → ℚ)
    (state : Stored) (body : Json) :
    (¬ (applyScenario layout settlePorts clock state body).Wrote → ∀ key,
      SameConfig (state key) ((applyScenario layout settlePorts clock state body).state key)) ∧
    ((applyScenario layout settlePorts clock state body).Wrote →
      ∃ providers, providersOf body.value = .ok providers ∧
        ∀ pool pid provider, layout.registry.provider pool pid = .ok provider →
          match Dict.get providers (.text provider.key.text) with
          | none => SameConfig (state provider.key)
              ((applyScenario layout settlePorts clock state body).state provider.key)
          | some block => ∃ entries, block = .dict entries ∧
              BlockWritten provider.chain entries (state provider.key)
                ((applyScenario layout settlePorts clock state body).state provider.key)) := by
  rcases applyScenario_cases layout settlePorts clock state body with
    ⟨unwritten, same⟩ | ⟨wrote, providers, staged, found, formed, passed, written⟩
  · refine ⟨fun _ key => ?_, fun wrote => absurd wrote unwritten⟩
    rw [same]
    exact ⟨rfl, rfl, rfl⟩
  · refine ⟨fun unwritten => absurd wrote unwritten, fun _ => ⟨providers, found, ?_⟩⟩
    intro pool pid provider served
    have plain := Registry.provider_pool served
    have key := Registry.provider_key served
    have split : partitionKey provider.key.text = some provider.key := by
      rw [key]
      exact partitionKey_of_plain plain
    cases given : Dict.get providers (.text provider.key.text) with
    | none =>
        -- A staged block of this provider would be a block under its text.
        have absent : provider.key ∉ staged.map fun block => block.provider.key := by
          intro member
          obtain ⟨block, inStaged, same⟩ := List.mem_map.mp member
          obtain ⟨item, inBlocks, _, -, here⟩ := passed.of_staged inStaged
          have text : item.1 = provider.key.text := by
            rw [← partitionKey_text here.named, same]
          refine (Dict.get_eq_none_iff providers _).mp given ?_
          rw [← text]
          exact List.mem_map.mpr ⟨_, Value.mem_members.mp inBlocks, rfl⟩
        rw [written.others provider.key absent]
        exact ⟨rfl, rfl, rfl⟩
    | some block =>
        have member : (provider.key.text, block) ∈ Value.members providers :=
          Value.mem_members.mpr (Dict.get_mem given)
        obtain ⟨one, inStaged, entries, dict, here⟩ := passed.of_block member
        have sameKey : one.provider.key = provider.key :=
          Option.some_injective _ (here.named.symm.trans split)
        have sameProvider : one.provider = provider := by
          have looked := here.served
          rw [sameKey, key] at looked
          exact Except.ok.inj (looked.symm.trans served)
        obtain ⟨config, values, after⟩ := written.blocks one inStaged
        subst sameProvider
        refine ⟨entries, dict, ?_⟩
        rw [after]
        exact here.written _ values

end ProviderSimulator.Control
