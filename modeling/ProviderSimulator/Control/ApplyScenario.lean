/-
**`POST /scenario`, the resets and the time-to-live sweep.**

`apply_scenario` runs in two loops. The first one checks each block of the body and writes nothing; the
second one writes provider by provider, and checks each block once more inside `update`. Then the call
waits for the ports, and answers 200, or 500 when a port did not settle. How that wait ends is the
environment's choice (`settlePorts`), and so is the time that each write is stamped with.

An answer is a refusal with its text, or the two answers of a call that wrote. An exception that nothing
catches ends the call with no answer.
-/

import Mathlib.Tactic.Common
import ProviderSimulator.Control.Rules

namespace ProviderSimulator.Control

open ProviderSimulator.Lib ProviderSimulator.Python ProviderSimulator.Domain
open ProviderSimulator.FaultPolicy

/-- A request body: a value that `json.loads` gives, so no object of it holds a key twice. -/
structure Json where
  value : Value
  formed : value.WellFormed

/-- The gate of a port: the provider and the endpoint that it belongs to. -/
structure Gate where
  provider : ProviderKey
  endpoint : Endpoint

/-- What the control API holds besides the state of the providers. -/
structure Layout where
  registry : Registry
  /-- `port_gates`. -/
  gates : Dict ℕ Gate

/-- The state of every provider. -/
abbrev Stored := ProviderKey → ProviderState

/-- Does the port have a gate? -/
def Layout.gated (layout : Layout) (port : ℕ) : Bool := layout.gates.has port

/-! ### Refusals -/

/-- Why a call answers with an error and writes nothing. -/
inductive ControlRefusal
  | bodyNoObject
  | providersMissing
  | blockNoObject (key : String)
  | keyFormat (key : String)
  | unknownProvider (refusal : RegistryRefusal)
  | rule (key : String) (refusal : RuleRefusal)
  | unknownField (key name : String) (chain : Chain)
  | scenario (key : ProviderKey) (refusal : ScenarioRefusal)
  | quirks (key : ProviderKey) (refusal : QuirksRefusal)

/-- The status of the answer. -/
def ControlRefusal.status : ControlRefusal → ℕ
  | .rule _ refusal => refusal.status
  | _ => 400

/-- The text of the answer, where `repr` is the function of the language. -/
def ControlRefusal.text (repr : Value → String) : ControlRefusal → String
  | .bodyNoObject => "request body must be a JSON object"
  | .providersMissing => "missing 'providers' object; keys are 'pool:pid'"
  | .blockNoObject key => "scenario for " ++ repr (.str key) ++ " must be an object"
  | .keyFormat key =>
      "provider key " ++ repr (.str key) ++ " must be 'pool:pid' — the old bare-pid + chain_family " ++
        "format is no longer accepted"
  | .unknownProvider refusal => refusal.text repr
  | .rule key refusal => key ++ ": " ++ refusal.text repr
  | .unknownField key name chain =>
      key ++ ": unknown field " ++ repr (.str name) ++ " — not a scenario field " ++
        repr (textList (sortedTexts (ScenarioField.all.map ScenarioField.name))) ++ " nor a " ++
        chain.name ++ " quirk " ++
        repr (textList (sortedTexts (chain.quirksFields.map QuirksField.name))) ++
        " (chain_family is gone; use the pool + transports filter)"
  | .scenario key refusal => key.text ++ ": " ++ refusal.text repr
  | .quirks key refusal => key.text ++ ": " ++ refusal.text repr

/-- The result of a check. -/
abbrev Checked := Except (Raised ControlRefusal)

/-! ### The check loop -/

/-- The texts around the first colon. -/
def splitColon : List Char → Option (List Char × List Char)
  | [] => none
  | char :: rest =>
      if char = ':' then some ([], rest)
      else (splitColon rest).map fun parts => (char :: parts.1, parts.2)

/-- `key.partition(":")`, for a key with a colon. -/
def partitionKey (key : String) : Option ProviderKey :=
  (splitColon key.toList).map fun parts => ⟨String.ofList parts.1, String.ofList parts.2⟩

/-- One provider with what the body writes to it. -/
structure Staged where
  provider : Provider
  scenario : ScenarioUpdates
  quirks : QuirksUpdates

/-- What the block of one provider gives so far. -/
structure Updates where
  scenario : ScenarioUpdates
  quirks : QuirksUpdates

/-- One field of a block. -/
def readField (key : String) (chain : Chain) (updates : Updates) (name : String) (value : Value) :
    Checked Updates :=
  if name = "responses" then do
    let stored ← mapRefusal (.rule key) (normaliseResponses value)
    pure { updates with scenario := updates.scenario.set .responses stored }
  else
    match ScenarioField.ofName name with
    | some field => do
        mapRefusal (.rule key) (badEnum name value)
        mapRefusal (.rule key) (badNumber name value)
        pure { updates with scenario := updates.scenario.set field value }
    | none =>
        match chain.quirksField name with
        | some field => do
            mapRefusal (.rule key) (badEnum name value)
            pure { updates with quirks := updates.quirks.set field value }
        | none => .error (.refused (.unknownField key name chain))

/-- The loop over the fields of a block. -/
def readFields (key : String) (chain : Chain) : List (String × Value) → Updates → Checked Updates
  | [], updates => .ok updates
  | (name, value) :: rest, updates => do
      let read ← readField key chain updates name value
      readFields key chain rest read

section

variable (layout : Layout) (state : Stored)

/-- `registry.provider`, with its `KeyError` as an answer. -/
def lookUp (key : ProviderKey) : Checked Provider :=
  match layout.registry.provider key.pool key.pid with
  | .ok provider => .ok provider
  | .error refusal => .error (.refused (.unknownProvider refusal))

/-- The rules of the block of one provider, once its fields are read. -/
def checkUpdates (key : String) (provider : Provider) (updates : Updates) : Checked Staged := do
  mapRefusal (.rule key)
    (blockRules provider (state provider.key).scenario.values updates.scenario layout.gated)
  mapRefusal (.scenario provider.key) (validate updates.scenario)
  mapRefusal (.quirks provider.key) (validateQuirks updates.quirks provider.chain)
  pure ⟨provider, updates.scenario, updates.quirks⟩

/-- One turn of the check loop. -/
def checkBlock (key : String) (block : Value) : Checked Staged :=
  match block with
  | .dict entries =>
      match partitionKey key with
      | none => .error (.refused (.keyFormat key))
      | some parts => do
          let provider ← lookUp layout parts
          let updates ← readFields key provider.chain (Value.members entries) ⟨.empty, .empty⟩
          checkUpdates layout state key provider updates
  | _ => .error (.refused (.blockNoObject key))

/-- The check loop. -/
def checkBlocks : List (String × Value) → Checked (List Staged)
  | [] => .ok []
  | (key, block) :: rest => do
      let staged ← checkBlock layout state key block
      let others ← checkBlocks rest
      pure (staged :: others)

/-- The `providers` object of a body. -/
def providersOf : Value → Checked (List (Key × Value))
  | .dict entries =>
      match Dict.get entries (.text "providers") with
      | some (.dict providers) => .ok providers
      | _ => .error (.refused .providersMissing)
  | _ => .error (.refused .bodyNoObject)

/-- Everything that a call does before it writes. -/
def checkBody (body : Value) : Checked (List Staged) := do
  let providers ← providersOf body
  checkBlocks layout state (Value.members providers)

end

/-! ### The write loop -/

/-- The state that a write leaves, and the exception that ended it. -/
structure Write where
  state : ProviderState
  failed : Option (Raised ControlRefusal)

/-- Give a refusal its place, on the way out of the write loop. -/
def placeRefusal {Refusal : Type} (place : Refusal → ControlRefusal) :
    Raised Refusal → Raised ControlRefusal
  | .refused refusal => .refused (place refusal)
  | .raised error => .raised error

/-- The writes of the two configs of one provider. -/
def writeConfigs (staged : Staged) (now : ℚ) (old : ProviderState) : Write :=
  match old.updateScenario staged.scenario now with
  | .error raised => ⟨old, some (placeRefusal (.scenario staged.provider.key) raised)⟩
  | .ok written =>
      if staged.quirks.items.isEmpty then ⟨written, none⟩
      else
        match written.updateQuirks staged.provider.chain staged.quirks with
        | .error raised => ⟨written, some (placeRefusal (.quirks staged.provider.key) raised)⟩
        | .ok quirked => ⟨quirked, none⟩

/-- The write of one provider: a fresh `fail_first_n` restarts the counter first. -/
def writeProvider (staged : Staged) (now : ℚ) (old : ProviderState) : Write :=
  writeConfigs staged now (if staged.scenario.names .failFirstN then old.resetFail else old)

/-- A port, and the state that its scenario asks for. -/
structure Wish where
  port : ℕ
  wantOpen : Bool

/-- `_port_wishes`, over the endpoints of a provider. -/
def portWishes (layout : Layout) (state : Stored) : List Endpoint → Except PyError (List Wish)
  | [] => .ok []
  | endpoint :: rest =>
      match layout.gates.get endpoint.port with
      | none => portWishes layout state rest
      | some gate => do
          let closed ← portClosed (state gate.provider).scenario.values gate.endpoint
          let others ← portWishes layout state rest
          pure (⟨endpoint.port, !closed⟩ :: others)

/-- What the answer echoes of one block: every field but `responses`. -/
def echo (staged : Staged) : List (String × Value) :=
  ((staged.scenario.items.filter fun item => item.1 ≠ .responses).map fun item =>
    (item.1.name, item.2)) ++ staged.quirks.items.map fun item => (item.1.name, item.2)

/-- What the write loop has done so far. -/
structure Written where
  wishes : List Wish := []
  applied : List (ProviderKey × List (String × Value)) := []

/-- The write loop. -/
def writeAll (layout : Layout) (clock : ProviderKey → ℚ) :
    List Staged → Stored → Written → Stored × Checked Written
  | [], state, written => (state, .ok written)
  | staged :: rest, state, written =>
      let key := staged.provider.key
      let write := writeProvider staged (clock key) (state key)
      let next := Function.update state key write.state
      match write.failed with
      | some raised => (next, .error raised)
      | none =>
          match portWishes layout next staged.provider.endpoints with
          | .error error => (next, .error (.raised error))
          | .ok wishes =>
              writeAll layout clock rest next
                ⟨written.wishes ++ wishes, written.applied ++ [(key, echo staged)]⟩

/-! ### The call -/

/-- What the call answers. -/
inductive Answer
  | refused (refusal : ControlRefusal)
  | notSettled (text : String) (applied : List (ProviderKey × List (String × Value)))
  | ok (applied : List (ProviderKey × List (String × Value)))

/-- The status of an answer. -/
def Answer.status : Answer → ℕ
  | .refused refusal => refusal.status
  | .notSettled _ _ => 500
  | .ok _ => 200

/-- The state that a call leaves, and its answer or the exception that ended it. -/
structure Outcome where
  state : Stored
  answer : Except PyError Answer

/-- The end of a call that was refused or that raised. -/
def Outcome.ofRaised (state : Stored) : Raised ControlRefusal → Outcome
  | .refused refusal => ⟨state, .ok (.refused refusal)⟩
  | .raised error => ⟨state, .error error⟩

/-- `apply_scenario`, with `port_lock` held. -/
def applyScenario (layout : Layout) (settlePorts : List Wish → String) (clock : ProviderKey → ℚ)
    (state : Stored) (body : Json) : Outcome :=
  match checkBody layout state body.value with
  | .error raised => .ofRaised state raised
  | .ok staged =>
      match writeAll layout clock staged state {} with
      | (next, .error raised) => .ofRaised next raised
      | (next, .ok written) =>
          let text := settlePorts written.wishes
          if text = "" then ⟨next, .ok (.ok written.applied)⟩
          else ⟨next, .ok (.notSettled text written.applied)⟩

/-! ### The other writers -/

/-- The writes of a scenario reset to one provider. -/
def resetProvider (provider : Provider) (old : ProviderState) : ProviderState :=
  ((old.resetScenario.resetQuirks provider.chain).resetFail).forgetExecuted

/-- The providers that a reset touches: all of them, or those of a pool. None for a pool that is
refused. -/
def scope (layout : Layout) : Value → Option (List Provider)
  | .none => some layout.registry.allProviders
  | .str pool => (layout.registry.pools.get pool).map fun row => Registry.providersOf pool row
  | _ => none

/-- Write one provider after another. -/
def writeEach (write : Provider → ProviderState → ProviderState) :
    List Provider → Stored → Stored
  | [], state => state
  | provider :: rest, state =>
      writeEach write rest (Function.update state provider.key (write provider (state provider.key)))

/-- The scenario writes of `reset` and `reset_all`. -/
def reset (layout : Layout) (pool : Value) (state : Stored) : Stored :=
  match scope layout pool with
  | none => state
  | some providers => writeEach resetProvider providers state

/-- The sweep of one provider. A scenario that was never written has the time of the read as the time of
its last write. -/
def revertStale (ttl now : ℚ) (clock : ProviderKey → ℚ) (provider : Provider) (old : ProviderState) :
    ProviderState :=
  if now - old.lastWriteAt.getD (clock provider.key) ≤ ttl then old
  else if (old.scenario.values .mode).eqText "success" then old
  else old.resetScenario

/-- `_revert_stale_scenarios`. -/
def revertStaleScenarios (layout : Layout) (ttl now : ℚ) (clock : ProviderKey → ℚ) (state : Stored) :
    Stored :=
  writeEach (revertStale ttl now clock) layout.registry.allProviders state

end ProviderSimulator.Control
