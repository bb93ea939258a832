/-
**A simulated secondary cache.**

A `CacheSim` holds one staged answer and a log of every call. `stage` decides what the next lookups get,
`plan` records one lookup and answers it, `record_other_method` records a call that is no lookup,
`clear_calls` drops the log, and `reset` takes the staged answer back.

* `stage` keeps every argument that is not given, and it writes its fields one by one: an `int` that
  raises leaves the fields before it written.
* `plan` reads its request before the lock. Inside the lock it counts the lookup first, so a field that
  cannot be read is counted and not logged.

The log is bounded, and the time of a call is left out.
-/

import Mathlib.Tactic.Common
import ProviderSimulator.Lib.Machine
import ProviderSimulator.Python.Host
import ProviderSimulator.Domain.Provider

namespace ProviderSimulator.CacheSim

open ProviderSimulator.Lib ProviderSimulator.Python ProviderSimulator.Domain

/-- What a cache-sim takes from the language and from its surroundings. -/
structure Environment where
  host : Host
  /-- `json.dumps`. -/
  dumps : Value → String
  /-- `text.encode()`, or nothing for a text with a lone surrogate, which JSON can give. -/
  encode : String → Option Bytes
  /-- `base64.b64encode`, as a text. -/
  encodeBase64 : Bytes → String
  /-- `latency_ms / 1000.0`, or nothing where the integer is too large for a float. -/
  seconds : ℤ → Option PyFloat
  /-- `grpc_status_names`: empty without `grpcio`. -/
  statusNames : List String
  /-- `HISTORY_MAX`. -/
  historyMax : ℕ

/-- A value that may be bytes, which JSON does not have. -/
inductive Raw
  | bytes (content : Bytes)
  | value (value : Value)
  deriving DecidableEq

/-! ### Entries -/

/-- `CacheEntry`: its fields have any type until they are validated. -/
structure CacheEntry where
  data : Raw := .bytes []
  sig : Raw := .bytes []
  sigBlocks : Raw := .value .none
  finalizedBlocksHashes : Raw := .value .none
  latestBlock : Value := .int 0
  metadata : Value := .list []
  optionalMetadata : Value := .list []
  seenBlock : Value := .int 0
  blocksHashesToHeights : Value := .list []
  isNodeError : Value := .bool false
  statusCode : Value := .int 0
  deriving DecidableEq

/-- What `stage` refuses, with what its text names. -/
inductive StageRefusal
  | unknownMode (mode : String)
  | hitWithoutEntry
  | unknownStatus (status : Value) (allowed : List String)
  | resultAndError
  | dataBesideResult
  | unknownFields (unknown : List String)
  | fieldType (name wanted found : String)

/-- The modes. -/
def modes : List String := ["hit", "miss", "error", "hang", "malformed"]

/-- The fields of `CacheEntry`, sorted. -/
def entryFields : List String :=
  ["blocks_hashes_to_heights", "data", "finalized_blocks_hashes", "is_node_error", "latest_block",
    "metadata", "optional_metadata", "seen_block", "sig", "sig_blocks", "status_code"]

/-- The text of a refusal, where `repr` is the function of the language. -/
def StageRefusal.text (repr : Value → String) : StageRefusal → String
  | .unknownMode mode =>
      "unknown cache-sim mode " ++ repr (.str mode) ++ "; expected one of " ++
        String.intercalate ", " modes
  | .hitWithoutEntry => "mode='hit' needs an entry; pass entry=... or use mode='miss'"
  | .unknownStatus status allowed =>
      "unknown error_status " ++ repr status ++ "; expected a gRPC status code such as " ++
        String.intercalate ", " (allowed.take 4) ++ " (OK is rejected: aborting with it hangs the call)"
  | .resultAndError =>
      "entry carries both 'result' and 'error' - a JSON-RPC reply is one or the other. Stage two " ++
        "entries for two shapes."
  | .dataBesideResult =>
      "entry carries 'data' beside 'result'/'error' - two payloads for one entry. Pass raw bytes in " ++
        "'data' alone, or the JSON-RPC value alone."
  | .unknownFields unknown =>
      "unknown entry field(s) " ++ repr (textList unknown) ++ "; known fields are " ++
        repr (textList entryFields) ++ " plus the 'result'/'error' conveniences. A silently dropped " ++
        "field is how a staged payload vanishes (MAG-3562), so nothing here is ignored."
  | .fieldType name wanted found => "entry." ++ name ++ " must be " ++ wanted ++ ", got " ++ found

/-- The result of a check. -/
abbrev Checked := Except (Raised StageRefusal)

/-- One of the fields that hold bytes or a text, or null. -/
def checkBlob (name : String) : Raw → Checked Unit
  | .bytes _ => .ok ()
  | .value .none => .ok ()
  | .value (.str _) => .ok ()
  | .value other => .error (.refused (.fieldType name "bytes or str" other.typeName))

/-- One of the fields that hold an integer. -/
def checkInt (name : String) (value : Value) : Checked Unit :=
  refuseIf value.asInt.isNone (.fieldType name "an int" value.typeName)

/-- One of the fields that hold a list. -/
def checkList (name : String) (value : Value) : Checked Unit :=
  refuseIf (!value.isList) (.fieldType name "a list" value.typeName)

/-- `validate`. -/
def CacheEntry.validate (entry : CacheEntry) : Checked Unit := do
  checkBlob "data" entry.data
  checkBlob "sig" entry.sig
  checkBlob "sig_blocks" entry.sigBlocks
  checkBlob "finalized_blocks_hashes" entry.finalizedBlocksHashes
  checkInt "latest_block" entry.latestBlock
  checkInt "seen_block" entry.seenBlock
  checkInt "status_code" entry.statusCode
  match entry.isNodeError with
  | .bool _ => pure ()
  | other => .error (.refused (.fieldType "is_node_error" "a bool" other.typeName))
  checkList "metadata" entry.metadata
  checkList "optional_metadata" entry.optionalMetadata
  checkList "blocks_hashes_to_heights" entry.blocksHashesToHeights

/-- The JSON-RPC envelope of a `result` or an `error`. -/
def envelope (env : Environment) (name : String) (content : Value) : Raw :=
  .value (.str (env.dumps (.object [("jsonrpc", .str "2.0"), ("id", .int 0), (name, content)])))

/-- `cls(**body)`: each field that the body names. -/
def CacheEntry.ofFields (body : List (Key × Value)) : CacheEntry :=
  let given (name : String) (default : Value) : Value := (Dict.get body (.text name)).getD default
  let blob (name : String) (default : Raw) : Raw :=
    ((Dict.get body (.text name)).map Raw.value).getD default
  { data := blob "data" (.bytes [])
    sig := blob "sig" (.bytes [])
    sigBlocks := blob "sig_blocks" (.value .none)
    finalizedBlocksHashes := blob "finalized_blocks_hashes" (.value .none)
    latestBlock := given "latest_block" (.int 0)
    metadata := given "metadata" (.list [])
    optionalMetadata := given "optional_metadata" (.list [])
    seenBlock := given "seen_block" (.int 0)
    blocksHashesToHeights := given "blocks_hashes_to_heights" (.list [])
    isNodeError := given "is_node_error" (.bool false)
    statusCode := given "status_code" (.int 0) }

/-- The names of a body that are no field. -/
def unknownFields (body : List (Key × Value)) : List String :=
  sortedTexts (((Value.members body).map Prod.fst).filter fun name =>
    !(entryFields ++ ["result", "error"]).contains name)

/-- `from_dict`. -/
def CacheEntry.fromDict (env : Environment) (body : List (Key × Value)) : Checked CacheEntry := do
  let result := Dict.get body (.text "result")
  let error := Dict.get body (.text "error")
  refuseIf (result.isSome && error.isSome) .resultAndError
  refuseIf ((result.isSome || error.isSome) && Dict.has body (.text "data")) .dataBesideResult
  refuseIf (!(unknownFields body).isEmpty) (.unknownFields (unknownFields body))
  let entry := CacheEntry.ofFields body
  match result, error with
  | some content, _ => pure { entry with data := envelope env "result" content }
  | Option.none, some content =>
      pure { entry with
        data := envelope env "error" content
        isNodeError :=
          if Dict.has body (.text "is_node_error") then entry.isNodeError else .bool true }
  | Option.none, Option.none => pure entry

/-- `text.encode()`: a `UnicodeEncodeError` is a `ValueError`. -/
def encodeText (env : Environment) (text : String) : Except PyError Bytes :=
  match env.encode text with
  | some content => .ok content
  | none => .error .valueError

/-- `_b64`. -/
def b64 (env : Environment) : Raw → Except PyError Value
  | .bytes content => .ok (.str (env.encodeBase64 content))
  | .value .none => .ok .none
  | .value (.str text) => do pure (.str (env.encodeBase64 (← encodeText env text)))
  | .value _ => .error .typeError

/-- `_list_or_null`. -/
def listOrNull (items : Value) : Except PyError Value :=
  if items.truthy then do pure (.list (← items.iterate)) else .ok .none

/-- `to_cache_relay_reply`. -/
def CacheEntry.toCacheRelayReply (env : Environment) (entry : CacheEntry) : Except PyError Value := do
  let data ← b64 env entry.data
  let sig ← b64 env entry.sig
  let hashes ← b64 env entry.finalizedBlocksHashes
  let sigBlocks ← b64 env entry.sigBlocks
  let metadata ← entry.metadata.iterate
  let optional ← listOrNull entry.optionalMetadata
  let heights ← listOrNull entry.blocksHashesToHeights
  pure (.object
    [("reply", .object
        [("data", data), ("sig", sig), ("latest_block", entry.latestBlock),
          ("finalized_blocks_hashes", hashes), ("sig_blocks", sigBlocks),
          ("metadata", .list metadata)]),
      ("optional_metadata", optional), ("seen_block", entry.seenBlock),
      ("blocks_hashes_to_heights", heights), ("is_node_error", entry.isNodeError),
      ("status_code", entry.statusCode)])

/-- `miss_reply`. -/
def missReply (seenBlock : ℤ) : Value :=
  .object
    [("reply", .none), ("optional_metadata", .none), ("seen_block", .int seenBlock),
      ("blocks_hashes_to_heights", .none), ("is_node_error", .bool false), ("status_code", .int 0)]

/-! ### The cache-sim -/

/-- `RecordedCall`, without its time. -/
structure RecordedCall where
  method : String
  chainId : String
  requestHashHex : String
  requestedBlock : ℤ
  finalized : Bool
  seenBlock : ℤ
  sharedStateId : String
  blocksHashesToHeights : List Value
  key : String
  mode : String
  deriving DecidableEq

/-- `CacheSim`. -/
structure Sim where
  name : String
  mode : String
  entry : Option CacheEntry
  latencyMs : ℤ
  errorStatus : Value
  errorMessage : Value
  malformedBody : Raw
  seenBlock : ℤ
  calls : List RecordedCall
  recordsTotal : ℕ
  deriving DecidableEq

/-- `b"\x7bnot json"`. -/
def notJson : Bytes := "\x7bnot json".toUTF8.toList

/-- `CacheSim(name)`. -/
def Sim.new (name : String) : Sim where
  name := name
  mode := "miss"
  entry := none
  latencyMs := 0
  errorStatus := .str "UNAVAILABLE"
  errorMessage := .str "cache-sim: injected error"
  malformedBody := .bytes notJson
  seenBlock := 0
  calls := []
  recordsTotal := 0

/-- The `entry` argument of `stage`. -/
inductive EntryArg
  | entry (entry : CacheEntry)
  | dict (body : List (Key × Value))

/-- The arguments of `stage`, with their defaults. Null is an argument that is not given. -/
structure StageArgs where
  mode : String := "hit"
  entry : Option EntryArg := none
  latencyMs : Value := .int 0
  errorStatus : Value := .none
  errorMessage : Value := .none
  malformedBody : Raw := .value .none
  seenBlock : Value := .none

/-- `_check_status`. -/
def checkStatus (env : Environment) (status : Value) : Checked Unit :=
  refuseIf (!env.statusNames.isEmpty &&
    (status.eqText "OK" || !env.statusNames.any fun name => status.eqText name))
    (.unknownStatus status (env.statusNames.filter fun name => name ≠ "OK"))

/-- What `stage` does before its lock: the entry to store. -/
def checkStage (env : Environment) (args : StageArgs) : Checked (Option CacheEntry) := do
  refuseIf (!modes.contains args.mode) (.unknownMode args.mode)
  refuseIf (args.mode = "hit" && args.entry.isNone) .hitWithoutEntry
  if !args.errorStatus.isNone then checkStatus env args.errorStatus
  match args.entry with
  | Option.none => pure Option.none
  | some (.entry entry) => do
      entry.validate
      pure (some entry)
  | some (.dict body) => do
      let entry ← CacheEntry.fromDict env body
      entry.validate
      pure (some entry)

/-- `malformed_body`, with a text as its bytes. -/
def encoded (env : Environment) : Raw → Except PyError Raw
  | .value (.str text) => do pure (.bytes (← encodeText env text))
  | other => .ok other

/-- A value that was given, or the one that was staged before. -/
def keep (given staged : Value) : Value := if given.isNone then staged else given

/-- `keep`, for bytes. -/
def keepRaw (given staged : Raw) : Raw := if given = .value .none then staged else given

/-- The locked block of `stage`, with the entry and the malformed body that it found. -/
def Sim.write (env : Environment) (sim : Sim) (args : StageArgs) (entry : Option CacheEntry) (malformed : Raw) :
    Sim × Checked Unit :=
  let first := { sim with mode := args.mode, entry := entry.or sim.entry }
  match env.host.intOf args.latencyMs with
  | .error error => (first, .error (.raised error))
  | .ok latency =>
      let second := { first with
        latencyMs := latency
        errorStatus := keep args.errorStatus sim.errorStatus
        errorMessage := keep args.errorMessage sim.errorMessage
        malformedBody := keepRaw malformed sim.malformedBody }
      match args.seenBlock with
      | .none => (second, .ok ())
      | given =>
          match env.host.intOf given with
          | .error error => (second, .error (.raised error))
          | .ok seen => ({ second with seenBlock := seen }, .ok ())

/-- `stage`. -/
def Sim.stage (env : Environment) (sim : Sim) (args : StageArgs) : Sim × Checked Unit :=
  match checkStage env args with
  | .error raised => (sim, .error raised)
  | .ok entry =>
      match encoded env args.malformedBody with
      | .error error => (sim, .error (.raised error))
      | .ok malformed => sim.write env args entry malformed

/-- `reset`. -/
def Sim.reset (sim : Sim) : Sim :=
  { sim with
    mode := "miss"
    entry := none
    latencyMs := 0
    calls := []
    recordsTotal := 0
    seenBlock := 0 }

/-- `clear_calls`. -/
def Sim.clearCalls (sim : Sim) : Sim := { sim with calls := [] }

/-- `deque.append`, which drops the oldest items of a full log. -/
def append (bound : ℕ) (calls : List RecordedCall) (call : RecordedCall) : List RecordedCall :=
  (calls ++ [call]).drop (calls.length + 1 - bound)

/-- `record_other_method`. -/
def Sim.recordOtherMethod (env : Environment) (sim : Sim) (method : String) : Sim :=
  { sim with
    recordsTotal := sim.recordsTotal + 1
    calls := append env.historyMax sim.calls
      ⟨method, "", "", 0, false, 0, "", [], "", sim.mode⟩ }

/-! ### The decision -/

/-- `GET_RELAY_METHOD`. -/
def getRelayMethod : String := "/smartrouter.pairing.RelayerCache/GetRelay"

/-- `CachePlan`. -/
inductive CachePlan
  | respond (body : Value) (sleep : PyFloat)
  | abort (status message : Value) (sleep : PyFloat)
  | raw (body : Raw) (sleep : PyFloat)
  deriving DecidableEq

/-- `b"\x7b\x7d"`. -/
def braces : Bytes := "\x7b\x7d".toUTF8.toList

/-- The members of a request body. Only a `RecursionError` is not caught. -/
def decodeRequest (env : Environment) (body : Bytes) : Except PyError (List (Key × Value)) :=
  match env.host.loads (if body.isEmpty then braces else body) with
  | .ok (.dict entries) => .ok entries
  | .ok _ => .ok []
  | .error .recursion => .error .recursionError
  | .error _ => .ok []

/-- `_unb64`. -/
def unb64 (env : Environment) : Value → Bytes
  | .str text => if text = "" then [] else (env.host.decodeBase64 text).getD []
  | _ => []

/-- `content.hex()`. -/
def hex (content : Bytes) : String :=
  String.ofList (content.flatMap fun byte =>
    [Nat.digitChar (byte.toNat / 16), Nat.digitChar (byte.toNat % 16)])

/-- `relay_key`. -/
def relayKey (finalized : Bool) (chainId : String) (requestHash : Bytes) (block : ℤ) : String :=
  (if finalized then "rel:f:" else "rel:t:") ++ chainId ++ ":" ++ hex requestHash ++ ":" ++ toString block

section

variable (env : Environment) (decoded : List (Key × Value))

/-- `decoded.get(name)`. -/
def given (name : String) : Value := (Dict.get decoded (.text name)).getD .none

/-- `int(decoded.get(name) or 0)`. -/
def givenInt (name : String) : Except PyError ℤ := env.host.intOf ((given decoded name).orElse (.int 0))

/-- `str(decoded.get(name) or "")`. -/
def givenText (name : String) : String := env.host.text ((given decoded name).orElse (.str ""))

/-- The call that a lookup is logged as. -/
def lookupCall (mode : String) (requestedBlock : ℤ) : Except PyError RecordedCall := do
  let requestHash := unb64 env (given decoded "request_hash")
  let finalized := (given decoded "finalized").truthy
  let seenBlock ← givenInt env decoded "seen_block"
  let heights ← ((given decoded "blocks_hashes_to_heights").orElse (.list [])).iterate
  pure ⟨getRelayMethod, givenText env decoded "chain_id", hex requestHash, requestedBlock, finalized,
    seenBlock, givenText env decoded "shared_state_id", heights,
    relayKey finalized (givenText env decoded "chain_id") requestHash requestedBlock, mode⟩

end

/-- The answer to a lookup that was logged. -/
def Sim.answer (env : Environment) (sim : Sim) : Except PyError CachePlan :=
  match env.seconds sim.latencyMs with
  | none => .error .overflowError
  | some sleep =>
      if sim.mode = "hang" then
        .ok (.respond (missReply sim.seenBlock) (if (PyFloat.finite 2).less sleep then sleep else .finite 2))
      else if sim.mode = "error" then .ok (.abort sim.errorStatus sim.errorMessage sleep)
      else if sim.mode = "malformed" then .ok (.raw sim.malformedBody sleep)
      else
        match sim.mode, sim.entry with
        | "hit", some entry => do pure (.respond (← entry.toCacheRelayReply env) sleep)
        | _, _ => .ok (.respond (missReply sim.seenBlock) sleep)

/-- `plan`. -/
def Sim.plan (env : Environment) (sim : Sim) (body : Bytes) : Sim × Except PyError CachePlan :=
  match decodeRequest env body with
  | .error error => (sim, .error error)
  | .ok decoded =>
      match givenInt env decoded "requested_block" with
      | .error error => (sim, .error error)
      | .ok block =>
          let counted := { sim with recordsTotal := sim.recordsTotal + 1 }
          match lookupCall env decoded sim.mode block with
          | .error error => (counted, .error error)
          | .ok call => ({ counted with calls := append env.historyMax sim.calls call }, sim.answer env)

/-! ### Operations and what is seen of them -/

/-- One operation on a cache-sim. -/
inductive Op
  | stage (args : StageArgs)
  | plan (body : Bytes)
  | recordOtherMethod (method : String)
  | clearCalls
  | reset

/-- How an operation ended. -/
inductive Outcome
  | done
  | planned (plan : CachePlan)
  | failed (raised : Raised StageRefusal)

/-- What `state` answers. -/
structure State where
  name : String
  mode : String
  latencyMs : ℤ
  hasEntry : Bool
  seenBlock : ℤ
  calls : ℕ
  otherMethodCalls : ℕ

/-- `state`. -/
def Sim.state (sim : Sim) : State where
  name := sim.name
  mode := sim.mode
  latencyMs := sim.latencyMs
  hasEntry := sim.entry.isSome
  seenBlock := sim.seenBlock
  calls := sim.calls.countP fun call => call.method = getRelayMethod
  otherMethodCalls := sim.calls.countP fun call => call.method ≠ getRelayMethod

/-- What is seen of an operation: how it ended, and then the state, the call log and the number of
records. -/
structure Seen where
  outcome : Outcome
  state : State
  calls : List RecordedCall
  recordsTotal : ℕ

/-- How a `stage` ended. -/
def Outcome.ofStage : Checked Unit → Outcome
  | .ok () => .done
  | .error raised => .failed raised

/-- How a `plan` ended. -/
def Outcome.ofPlan : Except PyError CachePlan → Outcome
  | .ok plan => .planned plan
  | .error error => .failed (.raised error)

/-- An operation on the state. -/
def Sim.apply (env : Environment) (sim : Sim) : Op → Sim × Outcome
  | .stage args => ((sim.stage env args).1, .ofStage (sim.stage env args).2)
  | .plan body => ((sim.plan env body).1, .ofPlan (sim.plan env body).2)
  | .recordOtherMethod method => (sim.recordOtherMethod env method, .done)
  | .clearCalls => (sim.clearCalls, .done)
  | .reset => (sim.reset, .done)

/-- What is seen of the state after an operation. -/
def Sim.seen (sim : Sim) (outcome : Outcome) : Seen :=
  ⟨outcome, sim.state, sim.calls, sim.recordsTotal⟩

/-- An operation, with what is seen of it. -/
def Sim.react (env : Environment) (sim : Sim) (op : Op) : Sim × Seen :=
  ((sim.apply env op).1, (sim.apply env op).1.seen (sim.apply env op).2)

end ProviderSimulator.CacheSim
