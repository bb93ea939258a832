/-
**The chain-specific knobs of a provider.**

A chain picks the quirks class of its providers (`quirks_for`). The classes share no field but the ones
that the two Sui classes have, so a quirks object is one value for each `QuirksField` of the simulator,
of which the chain declares some (`Chain.quirksFields`). A field that the class does not declare is
never written and never read. Only the Sui classes have rules of their own (`validateQuirks`).
-/

import Mathlib.Tactic.Common
import ProviderSimulator.Domain.IntrospectiveConfig
import ProviderSimulator.Stubs.JsonRpc

namespace ProviderSimulator.Domain

open ProviderSimulator.Lib ProviderSimulator.Python

/-- The chains of `QUIRKS_BY_CHAIN`. -/
inductive Chain
  | eth
  | btc
  | ln
  | solana
  | lava
  | sui
  | suit
  deriving DecidableEq

/-- The name of a chain. -/
def Chain.name : Chain → String
  | .eth => "eth"
  | .btc => "btc"
  | .ln => "ln"
  | .solana => "solana"
  | .lava => "lava"
  | .sui => "sui"
  | .suit => "suit"

/-- The fields of the quirks classes. -/
inductive QuirksField
  | logsIndexedUpTo
  | logsLagMode
  | slotBlockGap
  | slotOffset
  | unknownMethodMode
  | chainId
  | transactionIndexLagMs
  | digestSalt
  deriving DecidableEq

/-- The name of a field on the wire. -/
def QuirksField.name : QuirksField → String
  | .logsIndexedUpTo => "logs_indexed_up_to"
  | .logsLagMode => "logs_lag_mode"
  | .slotBlockGap => "slot_block_gap"
  | .slotOffset => "slot_offset"
  | .unknownMethodMode => "unknown_method_mode"
  | .chainId => "chain_id"
  | .transactionIndexLagMs => "transaction_index_lag_ms"
  | .digestSalt => "digest_salt"

namespace Chain

/-- The fields of the quirks class of a chain. -/
def quirksFields : Chain → List QuirksField
  | .eth => [.logsIndexedUpTo, .logsLagMode]
  | .solana => [.slotBlockGap, .slotOffset, .unknownMethodMode]
  | .sui => [.chainId, .transactionIndexLagMs, .digestSalt]
  | .suit => [.chainId, .transactionIndexLagMs, .digestSalt]
  | .btc => []
  | .ln => []
  | .lava => []

/-- The quirks field of a chain with a name, if there is one. -/
def quirksField (chain : Chain) (wanted : String) : Option QuirksField :=
  chain.quirksFields.find? fun field => field.name = wanted

/-- The default of a field in the quirks class of a chain. -/
def quirksDefault (chain : Chain) : QuirksField → Value
  | .logsIndexedUpTo => .none
  | .logsLagMode => .str "empty"
  | .slotBlockGap => .int Stubs.solanaDefaultSlotBlockGap
  | .slotOffset => .int 0
  | .unknownMethodMode => .str "null"
  | .chainId =>
      if chain = .suit then .str "69WiPg3DAQiwdxfncX6wYQ2siKwAe6L9BZthQea3JNMD"
      else .str "4btiuiMPvEENsttpZC7CZ53DruC3MAgfznDbASZ7DR6S"
  | .transactionIndexLagMs => .int 0
  | .digestSalt => .str ""

/-- Does the chain use one of the Sui classes? -/
def isSui (chain : Chain) : Bool := chain = .sui || chain = .suit

end Chain

/-- One value for each field: a quirks object, or a snapshot of it. -/
abbrev Quirks := QuirksField → Value

/-- A partial block of an update. -/
abbrev QuirksUpdates := Block QuirksField

/-- What the quirks classes refuse, with what the text names. -/
inductive QuirksRefusal
  | noString (field : QuirksField) (value : Value)
  | chainIdEmpty
  | indexLag (lag : Value)

/-- The text of a refusal, where `repr` is the function of the language. -/
def QuirksRefusal.text (repr : Value → String) : QuirksRefusal → String
  | .noString field value => field.name ++ " must be a string, got " ++ repr value
  | .chainIdEmpty => "chain_id must not be empty: it is the answer to chainIdentifier"
  | .indexLag lag => "transaction_index_lag_ms must be a non-negative integer, got " ++ repr lag

/-- Is the value an integer from 0 on, and no Boolean? -/
def isCount (value : Value) : Bool :=
  match value.asInt with
  | some number => 0 ≤ number
  | none => false

section

variable (cfg : QuirksUpdates)

/-- One of the two text fields of a Sui class. -/
def validateQuirksText (field : QuirksField) : Except (Raised QuirksRefusal) Unit :=
  match cfg.items.get field with
  | some value => refuseIf (!value.isStr) (.noString field value)
  | none => .ok ()

/-- `_validate` of the quirks class of a chain. -/
def validateQuirks (chain : Chain) : Except (Raised QuirksRefusal) Unit :=
  if chain.isSui then do
    validateQuirksText cfg .chainId
    validateQuirksText cfg .digestSalt
    match cfg.items.get .chainId with
    | some value => refuseIf (!value.truthy) .chainIdEmpty
    | none => pure ()
    match cfg.items.get .transactionIndexLagMs with
    | some lag => refuseIf (!isCount lag) (.indexLag lag)
    | none => pure ()
  else .ok ()

/-- `update`: the rules of the class first, and then the write. -/
def updateQuirks (chain : Chain) (quirks : Quirks) : Except (Raised QuirksRefusal) Quirks := do
  validateQuirks cfg chain
  pure (cfg.over quirks)

end

theorem Chain.quirksField_eq_some {chain : Chain} {wanted : String} {field : QuirksField}
    (found : chain.quirksField wanted = some field) : field.name = wanted := by
  have holds := List.find?_some found
  simpa using holds

end ProviderSimulator.Domain
