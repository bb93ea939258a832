/-
**The reply messages of gRPC.**

`serve` plans a gRPC reply as the data of the chain, and finishes the history row. The adapter then builds the protobuf
message of the plan. Two of the three builders copy values of the data into typed fields, and the data may come from a
`result` override, which is free JSON.

* `Protobuf` and `Protobuf.Typed` — the parts of the protobuf library that the builders use, and which values the
  fields of a type take;
* `merged`, the three builders, and `messageOf`;
* `buildReply_gives` — a message is built exactly when each typed field takes its value (`fillable`).
-/

import Mathlib.Tactic.Common
import ProviderSimulator.Chains.Answers
import ProviderSimulator.Listeners.Interfaces

namespace ProviderSimulator.Listeners.Grpc

open ProviderSimulator.Lib ProviderSimulator.Python ProviderSimulator.Domain
open ProviderSimulator.Chains (Gives gives_ok gives_error_iff)
open ProviderSimulator.Chains.Lava (lavaSimChainId)

/-! ### The library -/

/-- What the builders use of the protobuf library. -/
structure Protobuf where
  /-- What a `string` field holds after `message.field = value`. -/
  setString : Value → Except PyError String
  /-- What a `string` field of a message holds that is built with `field=value`. -/
  stringKeyword : Value → Except PyError String
  /-- What an `int64` field of a message holds that is built with `field=value`. -/
  int64Keyword : Value → Except PyError ℤ
  /-- `message.DESCRIPTOR.fields_by_name.get(name)`, for the names of the fields of the message. -/
  fieldNamed : List String → Value → Except PyError (Option String)

/-- An integer of the signed 64-bit range. -/
def isInt64 (value : Value) : Bool :=
  match value.integer with
  | some number => -2 ^ 63 ≤ number && number < 2 ^ 63
  | none => false

/-- **A field takes the values of its type**, and raises for any other. A keyword that is `None` leaves its field unset.
The look-up of a field is the one of a mapping. -/
structure Protobuf.Typed (protobuf : Protobuf) : Prop where
  setString (value : Value) : Gives (protobuf.setString value) ↔ value.isStr = true
  stringKeyword (value : Value) : Gives (protobuf.stringKeyword value) ↔ (value.isNone || value.isStr) = true
  int64Keyword (value : Value) : Gives (protobuf.int64Keyword value) ↔ (value.isNone || isInt64 value) = true
  fieldNamed (fields : List String) {name : Value} (hashable : name.hashable = true) :
    Gives (protobuf.fieldNamed fields name)

/-! ### The messages -/

/-- `google.protobuf.Timestamp`. -/
structure Timestamp where
  seconds : ℤ
  nanos : ℤ
  deriving DecidableEq

/-- `tendermint.types.Header`. -/
structure Header where
  chainId : String
  height : ℤ
  time : Timestamp
  deriving DecidableEq

/-- `tendermint.p2p.DefaultNodeInfo`. -/
structure DefaultNodeInfo where
  network : String
  moniker : String
  version : String
  deriving DecidableEq

/-- `cosmos.base.tendermint.v1beta1.VersionInfo`. -/
structure VersionInfo where
  name : String
  appName : String
  version : String
  deriving DecidableEq

/-- `cosmos.base.v1beta1.Coin`. -/
structure Coin where
  denom : String
  amount : String
  deriving DecidableEq

/-- The reply message of a served method: the hash of the block id and the header of the block, the two parts of the
node info, or the balances. -/
inductive Message
  | latestBlock (blockId : Option Bytes) (block : Option Header)
  | nodeInfo (defaultNodeInfo : Option DefaultNodeInfo) (applicationVersion : Option VersionInfo)
  | allBalances (balances : List Coin)
  deriving DecidableEq

/-- The bare names of `SERVED_METHODS`. -/
def servedMethods : List String := ["GetLatestBlock", "GetNodeInfo", "AllBalances"]

/-- The names of the fields of the reply message. -/
def replyFields (method : String) : List String :=
  if method = "GetLatestBlock" then ["block_id", "block", "sdk_block"]
  else if method = "GetNodeInfo" then ["default_node_info", "application_version"]
  else ["balances", "pagination"]

/-- `response.ClearField(name)`. -/
def Message.clearField (name : String) : Message → Message
  | .latestBlock blockId block =>
      .latestBlock (if name = "block_id" then none else blockId) (if name = "block" then none else block)
  | .nodeInfo info version =>
      .nodeInfo (if name = "default_node_info" then none else info)
        (if name = "application_version" then none else version)
  | .allBalances balances => .allBalances (if name = "balances" then [] else balances)

/-! ### The builders -/

/-- `datetime.now(timezone.utc)`: the whole seconds since the epoch, and the microseconds after them. -/
structure UtcNow where
  seconds : ℤ
  microsecond : Fin 1000000

/-- `GRPC_LATEST_BLOCK`. -/
def grpcLatestBlock : ℤ := 25000000

/-- `_merged`: the keys of a `result` override shadow the data of the chain. -/
def merged (data : Value) : Except PyError (List (Key × Value)) :=
  match data with
  | .dict entries =>
      let rest := Dict.pop entries (.text "result")
      match Dict.get entries (.text "result") with
      | some (.dict result) => .ok (Dict.update rest result)
      | _ => .ok rest
  | _ => .error .typeError

section

variable (protobuf : Protobuf) (host : Host) (now : UtcNow)

/-- `build_latest_block`. -/
def buildLatestBlock (data : Value) : Except PyError Message := do
  let merged ← merged data
  let chainId ← protobuf.stringKeyword ((Dict.get merged (.text "chain_id")).getD (.str lavaSimChainId))
  let height ← protobuf.int64Keyword ((Dict.get merged (.text "height")).getD (.int grpcLatestBlock))
  let time := { seconds := now.seconds, nanos := now.microsecond * 1000 }
  pure (.latestBlock (some (List.replicate 32 0xab)) (some { chainId, height, time }))

/-- `build_node_info`. -/
def buildNodeInfo (data : Value) : Except PyError Message := do
  let merged ← merged data
  let network ← protobuf.setString ((Dict.get merged (.text "network")).getD (.str lavaSimChainId))
  let moniker ← protobuf.setString ((Dict.get merged (.text "moniker")).getD (.str "lava-sim-grpc-provider"))
  let version ← protobuf.setString ((Dict.get merged (.text "version")).getD (.str "sim-1.0"))
  let name ← protobuf.setString (.str "lava-sim")
  let appName ← protobuf.setString ((Dict.get merged (.text "app_name")).getD (.str "lava-sim-app"))
  let appVersion ← protobuf.setString ((Dict.get merged (.text "app_version")).getD (.str "sim-1.0"))
  pure (.nodeInfo (some { network, moniker, version }) (some { name, appName, version := appVersion }))

/-- `_text`. -/
def coinText (value : Value) : String := if value.isNone then "" else host.text value

/-- The coins of the items that are objects. -/
def coins : List Value → Except PyError (List Coin)
  | [] => pure []
  | .dict coin :: rest => do
      let denom ← protobuf.stringKeyword (.str (coinText host ((Dict.get coin (.text "denom")).getD .none)))
      let amount ← protobuf.stringKeyword (.str (coinText host ((Dict.get coin (.text "amount")).getD .none)))
      pure ({ denom, amount } :: (← coins rest))
  | _ :: rest => coins rest

/-- `build_all_balances`. -/
def buildAllBalances (data : Value) : Except PyError Message := do
  let merged ← merged data
  match (Dict.get merged (.text "balances")).getD (.list []) with
  | .list items => pure (.allBalances (← coins protobuf host items))
  | _ => pure (.allBalances [])

/-- `_REPLY_BUILDERS[method](data)`. -/
def buildReply (method : String) (data : Value) : Except PyError Message :=
  if method = "GetLatestBlock" then buildLatestBlock protobuf now data
  else if method = "GetNodeInfo" then buildNodeInfo protobuf data
  else if method = "AllBalances" then buildAllBalances protobuf host data
  else .error .keyError

/-- `message_of` of a plan whose body is the reply of the method with this data. -/
def messageOf (plan : ServeResult) (method : String) (data : Value) : Except PyError Message := do
  let response ← buildReply protobuf host now method data
  if plan.corruptionMode.eqText "missing_field" && plan.missingField.truthy then
    match ← protobuf.fieldNamed (replyFields method) plan.missingField with
    | some field => pure (response.clearField field)
    | none => pure response
  else pure response

end

/-! ### When a message is built -/

/-- The typed fields of the reply of a method: the key of the data, and which values the field takes. -/
def typedFields (method : String) : List (String × (Value → Bool)) :=
  if method = "GetLatestBlock" then
    [("chain_id", fun value => value.isNone || value.isStr), ("height", fun value => value.isNone || isInt64 value)]
  else if method = "GetNodeInfo" then
    ["network", "moniker", "version", "app_name", "app_version"].map fun key => (key, Value.isStr)
  else []

/-- Does each typed field of the reply take the value that the data has for it? -/
def fillable (method : String) (data : Value) : Bool :=
  match merged data with
  | .ok entries => (typedFields method).all fun field => (Dict.get entries (.text field.1)).all field.2
  | .error _ => false

section

variable {protobuf : Protobuf} (typed : protobuf.Typed) (host : Host) (now : UtcNow)

/-- A sequence whose second half does not depend on the value of the first. -/
theorem gives_bind_and {S T : Type} {first : Except PyError S} {next : S → Except PyError T} {second : Prop}
    (same : ∀ found, Gives (next found) ↔ second) : Gives (first >>= next) ↔ Gives first ∧ second := by
  rw [Chains.gives_bind]
  constructor
  · rintro ⟨found, here, later⟩
    exact ⟨⟨found, here⟩, (same found).mp later⟩
  · rintro ⟨⟨found, here⟩, later⟩
    exact ⟨found, here, (same found).mpr later⟩

/-- A field whose default it takes is taken if its value is. -/
theorem taken_iff {T : Type} {take : Value → Except PyError T} {fits : Value → Bool}
    (law : ∀ value, Gives (take value) ↔ fits value = true) {default : Value} (usual : fits default = true)
    (found : Option Value) : Gives (take (found.getD default)) ↔ found.all fits = true := by
  rw [law]
  cases found with
  | none => exact ⟨fun _ => rfl, fun _ => usual⟩
  | some value => exact Iff.rfl

include typed

theorem buildLatestBlock_gives (data : Value) :
    Gives (buildLatestBlock protobuf now data) ↔ fillable "GetLatestBlock" data = true := by
  unfold buildLatestBlock fillable
  cases merged data with
  | error error => exact gives_error_iff Bool.false_ne_true _
  | ok entries =>
      rw [ok_bind, gives_bind_and fun chainId => Chains.gives_bind_pure _,
        taken_iff typed.stringKeyword rfl, taken_iff typed.int64Keyword (by decide)]
      simp [typedFields]

theorem buildNodeInfo_gives (data : Value) :
    Gives (buildNodeInfo protobuf data) ↔ fillable "GetNodeInfo" data = true := by
  unfold buildNodeInfo fillable
  cases merged data with
  | error error => exact gives_error_iff Bool.false_ne_true _
  | ok entries =>
      have text : ∀ (key default : String), Gives (protobuf.setString ((Dict.get entries (.text key)).getD
          (.str default))) ↔ (Dict.get entries (.text key)).all Value.isStr = true :=
        fun key default => taken_iff typed.setString rfl _
      have name : Gives (protobuf.setString (.str "lava-sim")) ↔ True := iff_true_intro ((typed.setString _).mpr rfl)
      rw [ok_bind, gives_bind_and fun network => gives_bind_and fun moniker => gives_bind_and fun version =>
        gives_bind_and fun name => gives_bind_and fun appName => Chains.gives_bind_pure _]
      simp [typedFields, text, name]

/-- Every list of items has its coins. -/
theorem coins_gives (items : List Value) : Gives (coins protobuf host items) := by
  have text : ∀ value, Gives (protobuf.stringKeyword (.str (coinText host value))) :=
    fun value => (typed.stringKeyword _).mpr rfl
  induction items with
  | nil => exact gives_ok _
  | cons item rest ih =>
      cases item with
      | dict coin =>
          unfold coins
          rw [gives_bind_and fun denom => gives_bind_and fun amount => Chains.gives_bind_pure _]
          exact ⟨text _, text _, ih⟩
      | _ => exact ih

/-- The balances are built from every object. -/
theorem buildAllBalances_gives (data : Value) :
    Gives (buildAllBalances protobuf host data) ↔ fillable "AllBalances" data = true := by
  unfold buildAllBalances fillable
  cases merged data with
  | error error => exact gives_error_iff Bool.false_ne_true _
  | ok entries =>
      refine ⟨fun _ => rfl, fun _ => ?_⟩
      rw [ok_bind]
      split
      · next items same => exact (Chains.gives_bind_pure _).mpr (coins_gives typed host items)
      · exact gives_ok _

/-- **A message is built** exactly when each typed field takes its value. -/
theorem buildReply_gives {method : String} (served : method ∈ servedMethods) (data : Value) :
    Gives (buildReply protobuf host now method data) ↔ fillable method data = true := by
  simp only [servedMethods, List.mem_cons, List.not_mem_nil, or_false] at served
  rcases served with rfl | rfl | rfl
  · exact buildLatestBlock_gives typed now data
  · exact buildNodeInfo_gives typed data
  · exact buildAllBalances_gives typed host data

end

end ProviderSimulator.Listeners.Grpc
