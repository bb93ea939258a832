/-
**The success path of the Sui chain.**

A reply is built one root field at a time. An entry of `responses` under the name of a root can fail it or
replace its stub, and each value is projected on the selection set of its root. A checkpoint above the tip
of the provider does not exist for it, and its digest comes from its number and the salt alone. A
transaction that is executed is reported, for the memory of the provider.
-/

import Mathlib.Tactic.Common
import Mathlib.Data.Nat.Digits.Defs
import ProviderSimulator.Chains.Lava

namespace ProviderSimulator.Chains.Sui

open ProviderSimulator.Lib ProviderSimulator.Python ProviderSimulator.Domain ProviderSimulator.Stubs
open ProviderSimulator.GraphqlDocument (RootField Reader)

/-! ### Digests -/

/-- The base58 alphabet: no `0`, `O`, `I` or `l`. -/
def alphabet : List Char := "123456789ABCDEFGHJKLMNPQRSTUVWXYZabcdefghijkmnopqrstuvwxyz".toList

/-- `int.from_bytes(data, "big")`. -/
def fromBytes (data : Bytes) : ℕ := data.foldl (fun number byte => number * 256 + byte.toNat) 0

/-- `base58_encode`. -/
def base58Encode (data : Bytes) : String :=
  let leadingZeros := (data.takeWhile fun byte => byte = 0).length
  let digits := (Nat.digits 58 (fromBytes data)).reverse.map fun digit => alphabet.getD digit '1'
  String.ofList (List.replicate leadingZeros '1' ++ digits)

/-- `number.to_bytes(8, "big")`. Only an integer has the method. -/
def toBytes8 (number : Value) : Except PyError Bytes :=
  match number.integer with
  | none => .error .attributeError
  | some value =>
      if 0 ≤ value ∧ value < 2 ^ 64 then
        .ok ((List.range 8).reverse.map fun place => UInt8.ofNat (value.toNat / 256 ^ place))
      else .error .overflowError

section

variable (host : Host)

/-- `transaction_digest`. -/
def transactionDigest (data : Bytes) : String :=
  base58Encode (host.blake2b (host.encode "TransactionData::" ++ data))

/-- `checkpoint_digest`. -/
def checkpointDigest (number salt : Value) : Except PyError Value := do
  match salt with
  | .str text =>
      let raw := host.encode "SimCheckpoint::" ++ host.encode text ++ (← toBytes8 number)
      pure (.str (base58Encode (host.blake2b raw)))
  | _ => .error .attributeError

/-! ### Checkpoints -/

/-- Does the text match `-?[0-9]+`? -/
def isWholeNumber (chars : List Char) : Bool :=
  let digits := match chars with
    | '-' :: rest => rest
    | _ => chars
  !digits.isEmpty && digits.all fun char => '0' ≤ char && char ≤ '9'

/-- `_as_height`. -/
def asHeight : Value → Option ℤ
  | .int value => some value
  | .str text =>
      let chars := host.strip text
      if isWholeNumber chars then host.parseInt 10 (String.ofList chars) else none
  | _ => none

/-- `max(0, value)`. -/
def orZero (value : Value) : Except PyError Value := do
  if ← (Value.int 0).less value then pure value else pure (.int 0)

/-- `tip`. -/
def tip (head : ℤ) (blocksBehind : Value) : Except PyError Value := do
  let above ← orZero (← host.sub (.int head) blocksBehind)
  above.atMost suiMaxCheckpoint

/-- `error_stub`: the name is a code in small letters or in capitals. -/
def errorStub (name : Value) : Except PyError Value :=
  tableItem suiErrorStubs (.str (host.text name).toLower)

/-- The checkpoint of a number that the provider has. -/
def checkpointAt (number salt : Value) : Except PyError Value := do
  let digest ← checkpointDigest host number salt
  let previous ←
    if ← (Value.int 0).less number then checkpointDigest host (← host.sub number (.int 1)) salt
    else pure .none
  pure (.object [
    ("sequenceNumber", number), ("digest", digest), ("previousCheckpointDigest", previous),
    ("epoch", .object [("epochId", .int suiEpochId)])])

/-- `_checkpoint`. -/
def checkpoint (root : RootField) (head : ℤ) (blocksBehind : Value) (quirks : Quirks) :
    Except PyError Value := do
  let tip ← tip host head blocksBehind
  let requested := (root.arguments.get "sequenceNumber").getD .none
  if requested.isNone then checkpointAt host tip (quirks .digestSalt)
  else
    match asHeight host requested with
    | none => pure .none
    | some found =>
        if 0 ≤ found && (← (Value.int found).lessEq tip) then
          checkpointAt host (.int found) (quirks .digestSalt)
        else pure .none

/-! ### Transactions -/

/-- Has the index of the provider caught up with a transaction? The quotient is exact here: the source takes a
float, which rounds it, and which a lag above `10 ^ 311` has none of. -/
def indexed (request : Parsed) (lag : Value) (digest : String) : Except PyError Bool := do
  if ← lag.exceeds 0 then
    match request.executedAt.get digest, lag.number with
    | some ranAt, some (.finite wait) => pure (decide (wait / 1000 ≤ request.now - ranAt))
    | _, _ => pure false
  else pure true

/-- `_transaction`. -/
def transaction (root : RootField) (request : Parsed) (head : ℤ) (blocksBehind : Value)
    (quirks : Quirks) : Except PyError Value := do
  match (root.arguments.get "digest").getD .none with
  | .str digest =>
      if ← indexed request (quirks .transactionIndexLagMs) digest then
        pure (.object [
          ("digest", .str digest),
          ("effects", .object [
            ("status", .str "SUCCESS"),
            ("checkpoint", .object [("sequenceNumber", ← tip host head blocksBehind)])])])
      else pure .none
  | _ => pure .none

/-! ### Roots -/

/-- The answer to one root: its value, the error beside it or null, and the digest that it executed. -/
structure Answer where
  value : Value
  error : Value := .none
  executed : Option String := none

/-- `base64.b64decode(raw, validate=True)` of a text, or nothing where the argument is no such text. -/
def transactionData (root : RootField) : Option Bytes :=
  match (root.arguments.get "transactionDataBcs").getD .none with
  | .str text => host.decodeBase64 text
  | _ => none

/-- `_execute`. -/
def execute (reader : Reader) (root : RootField) (graphql : GraphqlDocument.Request) :
    Except PyError Answer := do
  match transactionData host root with
  | none => pure { value := .none, error := ← errorStub host (.str "bad_user_input") }
  | some data =>
      let digest := transactionDigest host data
      let effects := Value.object [
        ("effects", .object [
          ("status", .str "SUCCESS"), ("digest", .str digest),
          ("transaction", .object [("digest", .str digest)])])]
      pure { value := ← reader.project effects root.selection graphql, executed := some digest }

/-- `_stub`. -/
def stub (root : RootField) (graphql : GraphqlDocument.Request) (request : Parsed) (head : ℤ)
    (blocksBehind : Value) (quirks : Quirks) : Except PyError Value :=
  match root.name with
  | "chainIdentifier" => .ok (quirks .chainId)
  | "serviceConfig" => do
      pure (.object [
        ("availableRange", .object [
          ("first", .object [("sequenceNumber", .int 0)]),
          ("last", .object [("sequenceNumber", ← tip host head blocksBehind)])])])
  | "checkpoint" => checkpoint host root head blocksBehind quirks
  | "epoch" => .ok (.object [("epochId", .int suiEpochId), ("referenceGasPrice", .str "1000")])
  | "transaction" => transaction host root request head blocksBehind quirks
  | "__typename" => .ok (.str (if graphql.operation = "mutation" then "Mutation" else "Query"))
  | _ => .ok .none

/-- `_answer`. -/
def answer (reader : Reader) (root : RootField) (entry : Value) (graphql : GraphqlDocument.Request)
    (request : Parsed) (head : ℤ) (blocksBehind : Value) (quirks : Quirks) :
    Except PyError Answer := do
  if ← entry.contains "error_stub" then
    pure { value := .none, error := ← errorStub host (← entry.item "error_stub") }
  else if ← entry.contains "error" then pure { value := .none, error := ← entry.item "error" }
  else if ← entry.contains "result" then
    pure { value := ← reader.project (← entry.item "result") root.selection graphql }
  else if root.name = "executeTransaction" then execute host reader root graphql
  else
    let value ← stub host root graphql request head blocksBehind quirks
    pure { value := ← reader.project value root.selection graphql }

/-- The data, the errors and the executed digests so far. -/
structure Reply where
  data : List (Key × Value) := []
  errors : List Value := []
  executed : List String := []

/-- One more root of the reply. -/
def Reply.add (reply : Reply) (root : RootField) (answer : Answer) : Except PyError Reply := do
  let data := Dict.set reply.data (.text root.responseKey) answer.value
  let errors ←
    if answer.error.isNone then pure reply.errors
    else do
      let placed ← answer.error.setItem "path" (.list [.str root.responseKey])
      pure (reply.errors ++ [placed])
  pure { data, errors, executed := reply.executed ++ answer.executed.toList }

/-- The loop over the roots. -/
def answerAll (reader : Reader) (responses : Value) (graphql : GraphqlDocument.Request)
    (request : Parsed) (head : ℤ) (blocksBehind : Value) (quirks : Quirks) :
    List RootField → Reply → Except PyError Reply
  | [], reply => .ok reply
  | root :: rest, reply => do
      let entry := ((← responses.get root.name).getD .none).orElse (.dict [])
      let answer ← answer host reader root entry graphql request head blocksBehind quirks
      answerAll reader responses graphql request head blocksBehind quirks rest (← reply.add root answer)

/-- `SuiChain.build_success`. -/
def buildSuccess (reader : Reader) (request : Parsed) (scenario : Scenario) (quirks : Quirks)
    (head : ℤ) : Except PyError Content := do
  match request.graphql with
  | none => .error .keyError
  | some graphql =>
      let reply ← answerAll host reader (responsesOf scenario) graphql request head
        (scenario .blocksBehind) quirks graphql.roots {}
      let body := Value.object [("data", .dict reply.data)]
      let body ←
        if reply.errors.isEmpty then pure body else body.setItem "errors" (.list reply.errors)
      pure { status := .int 200, body, executedNow := reply.executed }

end

end ProviderSimulator.Chains.Sui

namespace ProviderSimulator.Chains

open ProviderSimulator.Python ProviderSimulator.Domain

/-- `chain_for(name).build_success`. The head is the one that the reply reads: the head of the chain, the
one of Bitcoin for Lightning, and for Lava the one of the interface. -/
def buildSuccess (host : Host) (reader : GraphqlDocument.Reader) (chain : Chain) (interface : Interface)
    (request : Parsed) (scenario : Scenario) (quirks : Quirks) (head : ℤ) : Except PyError Content :=
  match chain with
  | .eth => Eth.buildSuccess host request scenario quirks head
  | .btc => Btc.buildSuccess host request scenario head
  | .ln => Ln.buildSuccess host request scenario head
  | .solana => Solana.buildSuccess host request scenario quirks head
  | .lava => Lava.buildSuccess host request scenario head interface
  | .sui => Sui.buildSuccess host reader request scenario quirks head
  | .suit => Sui.buildSuccess host reader request scenario quirks head

end ProviderSimulator.Chains
