/-
**The stub replies of the Lava and Sui interfaces.**

The Cosmos REST bodies by route, the Tendermint results by method, with the three builders that a request
can move to a height, and the errors of a Sui provider. A builder takes its height as the chain computes
it, which is a float for a `blocks_behind` that is one.
-/

import Mathlib.Tactic.Common
import ProviderSimulator.GraphqlDocument
import ProviderSimulator.Stubs.JsonRpc

namespace ProviderSimulator.Stubs

open ProviderSimulator.Lib ProviderSimulator.Python

/-! ### Cosmos REST -/

def restLatestHeight : ℤ := 20000000

/-- `_block_response`. -/
def restBlockResponse (height : ℤ) : Value :=
  .object [
      ("block_id", .object [
          ("hash", .str "ABABABABABABABABABABABABABABABABABABABABABABABABABABABABABABABAB"),
          ("part_set_header", .object [
              ("total", .int 1),
              ("hash", .str "CDCDCDCDCDCDCDCDCDCDCDCDCDCDCDCDCDCDCDCDCDCDCDCDCDCDCDCDCDCDCDCD")])]),
      ("block", .object [
          ("header", .object [
              ("version", .object [("block", .str "11"), ("app", .str "0")]),
              ("chain_id", .str "lava-sim"), ("height", .str (decimal height)),
              ("time", .str "2024-01-01T00:00:00Z"),
              ("last_block_id", .object [
                  ("hash", .str ""),
                  ("part_set_header", .object [("total", .int 0), ("hash", .str "")])]),
              ("last_commit_hash", .str ""), ("data_hash", .str ""), ("validators_hash", .str ""),
              ("next_validators_hash", .str ""), ("consensus_hash", .str ""),
              ("app_hash", .str ""), ("last_results_hash", .str ""), ("evidence_hash", .str ""),
              ("proposer_address", .str "")]),
          ("data", .object [("txs", .list [])]), ("evidence", .object [("evidence", .list [])]),
          ("last_commit", .object [
              ("height", .str (decimal (max (height - 1) 0))), ("round", .int 0),
              ("block_id", .object [
                  ("hash", .str ""),
                  ("part_set_header", .object [("total", .int 0), ("hash", .str "")])]),
              ("signatures", .list [])])])]

/-- `_node_info_response`. -/
def restNodeInfoResponse : Value :=
  .object [
      ("default_node_info", .object [
          ("protocol_version", .object [("p2p", .str "8"), ("block", .str "11"), ("app", .str "0")]),
          ("default_node_id", .str "sim-node-0000"), ("listen_addr", .str "tcp://0.0.0.0:26656"),
          ("network", .str "lava-sim"), ("version", .str "0.38.0"),
          ("channels", .str "40202122233038606100"), ("moniker", .str "lava-sim-provider"),
          ("other", .object [
              ("tx_index", .str "on"), ("rpc_address", .str "tcp://0.0.0.0:26657")])]),
      ("application_version", .object [
          ("name", .str "lava"), ("app_name", .str "lavad"), ("version", .str "5.0.0"),
          ("git_commit", .str "0000000000000000000000000000000000000000"),
          ("build_tags", .str ""), ("go_version", .str "1.21"),
          ("cosmos_sdk_version", .str "0.50.7")])]

/-- `_balances_response`. -/
def restBalancesResponse : Value :=
  .object [
      ("balances", .list [.object [("denom", .str "ulava"), ("amount", .str "1000000")]]),
      ("pagination", .object [("next_key", .none), ("total", .str "1")])]

/-- `_validators_response`. -/
def restValidatorsResponse : Value :=
  .object [
      ("validators", .list [
          .object [
              ("operator_address", .str "lavavaloper1simulator00000000000000000000000000"),
              ("consensus_pubkey", .object [
                  ("@type", .str "/cosmos.crypto.ed25519.PubKey"),
                  ("key", .str "AAAAAAAAAAAAAAAAAAAAAAAAAAAAAAAAAAAAAAAAAAA=")]),
              ("jailed", .bool false), ("status", .str "BOND_STATUS_BONDED"),
              ("tokens", .str "1000000"), ("delegator_shares", .str "1000000.000000000000000000"),
              ("description", .object [
                  ("moniker", .str "lava-sim-validator"), ("identity", .str ""),
                  ("website", .str ""), ("security_contact", .str ""), ("details", .str "")]),
              ("unbonding_height", .str "0"), ("unbonding_time", .str "1970-01-01T00:00:00Z"),
              ("commission", .object [
                  ("commission_rates", .object [
                      ("rate", .str "0.100000000000000000"),
                      ("max_rate", .str "0.200000000000000000"),
                      ("max_change_rate", .str "0.010000000000000000")]),
                  ("update_time", .str "1970-01-01T00:00:00Z")]),
              ("min_self_delegation", .str "1")]]),
      ("pagination", .object [("next_key", .none), ("total", .str "1")])]

/-- `_simulate_response`. -/
def restSimulateResponse : Value :=
  .object [
      ("gas_info", .object [("gas_wanted", .str "200000"), ("gas_used", .str "85432")]),
      ("result", .object [
          ("data", .str ""), ("log", .str ""), ("events", .list []), ("msg_responses", .list [])])]

/-- `_broadcast_response`. -/
def restBroadcastResponse : Value :=
  .object [
      ("tx_response", .object [
          ("height", .str "0"), ("txhash", .str (repeated 32 "EF")), ("codespace", .str ""),
          ("code", .int 0), ("data", .str ""), ("raw_log", .str "[]"), ("logs", .list []),
          ("info", .str ""), ("gas_wanted", .str "0"), ("gas_used", .str "0"), ("tx", .none),
          ("timestamp", .str ""), ("events", .list [])])]

/-- `REST_METHOD_DEFAULTS`, by verb and template. -/
def restMethodDefaults : Dict (String × String) Value :=
  [(("GET", "/cosmos/base/tendermint/v1beta1/blocks/latest"), restBlockResponse restLatestHeight),
    (("GET", "/cosmos/base/tendermint/v1beta1/blocks/\x7bheight\x7d"), restBlockResponse restLatestHeight),
    (("GET", "/cosmos/base/tendermint/v1beta1/node_info"), restNodeInfoResponse),
    (("GET", "/cosmos/bank/v1beta1/balances/\x7baddress\x7d"), restBalancesResponse),
    (("GET", "/cosmos/staking/v1beta1/validators"), restValidatorsResponse),
    (("POST", "/cosmos/tx/v1beta1/simulate"), restSimulateResponse),
    (("POST", "/cosmos/tx/v1beta1/txs"), restBroadcastResponse)]

/-- `REST_ERROR_STUBS`. -/
def restErrorStubs : Dict String Value :=
  [("not_found", .object [
        ("code", .int 5), ("message", .str "rpc error: code = NotFound desc = not found"),
        ("details", .list [])]),
    ("internal", .object [
        ("code", .int 13), ("message", .str "rpc error: code = Internal desc = internal error"),
        ("details", .list [])])]

/-! ### Tendermint -/

def tmNetworkId : String := "lava-sim-tm"

def tmLatestHeight : ℤ := 5000000

/-- `f"{TM_LATEST_HEIGHT:064X}"`. -/
def tmBlockHash : String := (hex64 tmLatestHeight).map Char.toUpper

def tmAppHash : String := repeated 32 "AB"

def tmValidatorAddr : String := repeated 40 "C"

def tmProposerAddr : String := repeated 40 "D"

/-- A number in upper-case hexadecimal digits, with zeros up to 40 characters. -/
def hex40 (number : ℕ) : String :=
  let digits := (Nat.toDigits 16 number).map Char.toUpper
  String.ofList (List.replicate (40 - digits.length) '0' ++ digits)

/-- `_VALIDATOR_POOL`. -/
def validatorPool : List Value :=
  (List.range 12).map fun index : ℕ =>
    let i : ℤ := index + 1
    .object [
      ("address", .str (hex40 (index + 1))),
      ("pub_key", .object [
          ("type", .str "tendermint/PubKeyEd25519"),
          ("value", .str ("pubkey_" ++ decimal i ++ "_base64=="))]),
      ("voting_power", .str (decimal (1000000 - i * 1000))),
      ("proposer_priority", .str (decimal (-1 * i * 100)))]

/-- `_status_response`. -/
def tmStatusResponse : Value :=
  .object [
      ("node_info", .object [
          ("protocol_version", .object [("p2p", .str "8"), ("block", .str "11"), ("app", .str "0")]),
          ("id", .str (repeated 40 "0")), ("listen_addr", .str "tcp://0.0.0.0:26656"),
          ("network", .str tmNetworkId), ("version", .str "0.34.27"),
          ("channels", .str "40202122233038606100"), ("moniker", .str "sim-node"),
          ("other", .object [
              ("tx_index", .str "on"), ("rpc_address", .str "tcp://0.0.0.0:26657")])]),
      ("sync_info", .object [
          ("latest_block_hash", .str tmBlockHash), ("latest_app_hash", .str tmAppHash),
          ("latest_block_height", .str (decimal tmLatestHeight)),
          ("latest_block_time", .str "2026-05-16T00:00:00Z"),
          ("earliest_block_hash", .str tmBlockHash), ("earliest_app_hash", .str tmAppHash),
          ("earliest_block_height", .str "1"),
          ("earliest_block_time", .str "2024-01-01T00:00:00Z"), ("catching_up", .bool false)]),
      ("validator_info", .object [
          ("address", .str tmValidatorAddr),
          ("pub_key", .object [
              ("type", .str "tendermint/PubKeyEd25519"),
              ("value", .str "sim_validator_pubkey_base64==")]),
          ("voting_power", .str "1000000")])]

/-- `_abci_info_response`. -/
def tmAbciInfoResponse : Value :=
  .object [
      ("response", .object [
          ("data", .str "sim-app"), ("version", .str "1.0.0"), ("app_version", .str "1"),
          ("last_block_height", .str (decimal tmLatestHeight)),
          ("last_block_app_hash", .str tmAppHash)])]

/-- `_block_response`, given the text of the height and the one of the height before. -/
def tmBlockResponse (height before : String) : Value :=
  .object [
      ("block_id", .object [
          ("hash", .str tmBlockHash),
          ("parts", .object [("total", .int 1), ("hash", .str tmBlockHash)])]),
      ("block", .object [
          ("header", .object [
              ("version", .object [("block", .str "11"), ("app", .str "0")]),
              ("chain_id", .str tmNetworkId), ("height", .str height),
              ("time", .str "2026-05-16T00:00:00Z"),
              ("last_block_id", .object [
                  ("hash", .str tmBlockHash),
                  ("parts", .object [("total", .int 1), ("hash", .str tmBlockHash)])]),
              ("last_commit_hash", .str tmBlockHash), ("data_hash", .str tmBlockHash),
              ("validators_hash", .str tmBlockHash), ("next_validators_hash", .str tmBlockHash),
              ("consensus_hash", .str tmBlockHash), ("app_hash", .str tmAppHash),
              ("last_results_hash", .str tmBlockHash), ("evidence_hash", .str tmBlockHash),
              ("proposer_address", .str tmProposerAddr)]),
          ("data", .object [("txs", .list [])]), ("evidence", .object [("evidence", .list [])]),
          ("last_commit", .object [
              ("height", .str before), ("round", .int 0),
              ("block_id", .object [
                  ("hash", .str tmBlockHash),
                  ("parts", .object [("total", .int 1), ("hash", .str tmBlockHash)])]),
              ("signatures", .list [])])])]

/-- `_validators_response`, given the text of the height. -/
def tmValidatorsResponse (height : String) (page perPage : ℤ) : Value :=
  let total := validatorPool.length
  let start := (max ((page - 1) * perPage) 0).toNat
  let stop := (min (start + perPage) total).toNat
  let slice := (validatorPool.drop start).take (stop - start)
  .object [
      ("block_height", .str height), ("validators", .list slice),
      ("count", .str (decimal slice.length)), ("total", .str (decimal total))]

/-- `_abci_query_response`, given the text of the height. The path and the data are not echoed. -/
def tmAbciQueryResponse (height : String) : Value :=
  .object [
      ("response", .object [
          ("code", .int 0), ("log", .str ""), ("info", .str ""), ("index", .str "0"),
          ("key", .str ""), ("value", .str ""), ("proofOps", .none),
          ("height", .str height), ("codespace", .str "")])]

/-- `_net_info_response`. -/
def tmNetInfoResponse : Value :=
  .object [
      ("listening", .bool true), ("listeners", .list [.str "Listener(@)"]), ("n_peers", .str "3"),
      ("peers", .list ((List.range 3).map fun index : ℕ =>
          let i := decimal (index + 1)
          .object [
            ("node_info", .object [
                ("id", .str ("peer" ++ repeated 38 "0" ++ i)),
                ("listen_addr", .str ("tcp://10.0.0." ++ i ++ ":26656")),
                ("network", .str tmNetworkId), ("moniker", .str ("sim-peer-" ++ i))]),
            ("is_outbound", .bool true),
            ("connection_status", .object [
                ("Duration", .str (decimal 60000000000)), ("SendMonitor", .dict []),
                ("RecvMonitor", .dict []), ("Channels", .list [])]),
            ("remote_ip", .str ("10.0.0." ++ i))]))]

/-- `TENDERMINT_METHOD_DEFAULTS`. -/
def tendermintMethodDefaults : Dict String Value :=
  [("status", tmStatusResponse), ("health", .dict []), ("abci_info", tmAbciInfoResponse),
    ("block", tmBlockResponse (decimal tmLatestHeight) (decimal (max (tmLatestHeight - 1) 0))),
    ("validators", tmValidatorsResponse (decimal tmLatestHeight) 1 30),
    ("abci_query", tmAbciQueryResponse (decimal 0)), ("net_info", tmNetInfoResponse)]

/-- `TENDERMINT_ERROR_STUBS`. -/
def tendermintErrorStubs : Dict String Value :=
  [("method_not_found", .object [("code", .int (-32601)), ("message", .str "Method not found")]),
    ("internal", .object [("code", .int (-32603)), ("message", .str "Internal error")])]

/-! ### Sui -/

def suiMaxCheckpoint : ℤ := 2 ^ 53 - 1

def suiEpochId : ℤ := 1286

/-- `_ERROR_MESSAGES`, by the code in small letters and in capitals. -/
def suiErrorMessages : List (String × String × String) :=
  [("bad_user_input", "BAD_USER_INPUT", "Invalid value for argument"),
    ("feature_unavailable", "FEATURE_UNAVAILABLE", "This feature is not available on this server"),
    ("graphql_parse_failed", "GRAPHQL_PARSE_FAILED", "The query could not be parsed"),
    ("graphql_validation_failed", "GRAPHQL_VALIDATION_FAILED", "The query is not valid"),
    ("internal_server_error", "INTERNAL_SERVER_ERROR", "Internal error"),
    ("request_timeout", "REQUEST_TIMEOUT", "Request timed out"),
    ("resource_exhausted", "RESOURCE_EXHAUSTED", "Too many requests")]

/-- `SUI_ERROR_STUBS`. -/
def suiErrorStubs : Dict String Value :=
  suiErrorMessages.map fun row =>
    (row.1, GraphqlDocument.graphqlError (.str row.2.2) row.2.1)

end ProviderSimulator.Stubs
