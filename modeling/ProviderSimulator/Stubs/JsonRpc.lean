/-
**The stub replies of the JSON-RPC chains.**

The default result of each method that a chain knows, and the error objects that a test can ask for by
name: Ethereum, Bitcoin and Lightning. Solana computes its results, and has error objects only. The texts
are the ones of the stub modules of the simulator.
-/

import Mathlib.Tactic.Common
import ProviderSimulator.Python.Host

namespace ProviderSimulator.Stubs

open ProviderSimulator.Lib ProviderSimulator.Python

/-- `text * count`. -/
def repeated (count : ℕ) (text : String) : String := String.join (List.replicate count text)

/-- `str(number)` of a whole number. -/
def decimal (number : ℤ) : String := toString number

/-! ### Ethereum -/

def ethChainId : String := "0x1"

def ethLatestBlock : String := "0x1312D00"

def ethZeroAddr : String := "0x" ++ repeated 40 "0"

def ethZeroHash : String := "0x" ++ repeated 64 "0"

def ethBlockHash : String := "0xaaaa" ++ repeated 60 "a"

def ethTxHash : String := "0xbbbb" ++ repeated 60 "b"

def ethBloom : String := "0x" ++ repeated 512 "0"

/-- `block`. -/
def block (number : String) : Value :=
  .object [
      ("number", .str number), ("hash", .str ethBlockHash), ("parentHash", .str ethZeroHash),
      ("nonce", .str "0x0000000000000000"),
      ("sha3Uncles", .str "0x1dcc4de8dec75d7aab85b567b6ccd41ad312451b948a7413f0a142fd40d49347"),
      ("logsBloom", .str ethBloom),
      ("transactionsRoot", .str "0x56e81f171bcc55a6ff8345e692c0f86e5b48e01b996cadc001622fb5e363b421"),
      ("stateRoot", .str "0xd7f8974fb5ac78d9ac099b9ad5018bedc2ce0a72dad1827a1709da30580f0544"),
      ("receiptsRoot", .str "0x56e81f171bcc55a6ff8345e692c0f86e5b48e01b996cadc001622fb5e363b421"),
      ("miner", .str ethZeroAddr), ("difficulty", .str "0x0"), ("totalDifficulty", .str "0x0"),
      ("extraData", .str "0x"), ("size", .str "0x1f4"), ("gasLimit", .str "0x1c9c380"),
      ("gasUsed", .str "0x0"), ("timestamp", .str "0x65f3d4c0"),
      ("baseFeePerGas", .str "0x3b9aca00"), ("withdrawalsRoot", .str ethZeroHash),
      ("transactions", .list []), ("uncles", .list []), ("withdrawals", .list [])]

/-- `tx`. -/
def tx : Value :=
  .object [
      ("hash", .str ethTxHash), ("nonce", .str "0x0"), ("blockHash", .str ethBlockHash),
      ("blockNumber", .str ethLatestBlock), ("transactionIndex", .str "0x0"),
      ("from", .str ethZeroAddr), ("to", .str ethZeroAddr), ("value", .str "0x0"),
      ("gas", .str "0x5208"), ("gasPrice", .str "0x3b9aca00"),
      ("maxFeePerGas", .str "0x3b9aca00"), ("maxPriorityFeePerGas", .str "0x0"),
      ("input", .str "0x"), ("v", .str "0x1"), ("r", .str ethZeroHash), ("s", .str ethZeroHash),
      ("type", .str "0x2"), ("accessList", .list []), ("chainId", .str ethChainId)]

/-- `receipt`. -/
def receipt : Value :=
  .object [
      ("transactionHash", .str ethTxHash), ("transactionIndex", .str "0x0"),
      ("blockHash", .str ethBlockHash), ("blockNumber", .str ethLatestBlock),
      ("from", .str ethZeroAddr), ("to", .str ethZeroAddr), ("cumulativeGasUsed", .str "0x5208"),
      ("gasUsed", .str "0x5208"), ("effectiveGasPrice", .str "0x3b9aca00"),
      ("contractAddress", .none), ("logs", .list []), ("logsBloom", .str ethBloom),
      ("status", .str "0x1"), ("type", .str "0x2")]

/-- `trace_frame`. -/
def traceFrame : Value :=
  .object [
      ("type", .str "CALL"), ("from", .str ethZeroAddr), ("to", .str ethZeroAddr),
      ("value", .str "0x0"), ("gas", .str "0x5208"), ("gasUsed", .str "0x0"),
      ("input", .str "0x"), ("output", .str "0x"), ("calls", .list [])]

/-- `ETH_METHOD_DEFAULTS`. -/
def ethMethodDefaults : Dict String Value :=
  [("eth_blockNumber", .str ethLatestBlock), ("eth_chainId", .str ethChainId),
    ("eth_protocolVersion", .str "0x41"), ("eth_syncing", .bool false),
    ("eth_coinbase", .str ethZeroAddr), ("eth_mining", .bool false), ("eth_hashrate", .str "0x0"),
    ("eth_accounts", .list []), ("eth_gasPrice", .str "0x3b9aca00"),
    ("eth_maxPriorityFeePerGas", .str "0x3b9aca00"),
    ("eth_feeHistory", .object [
        ("oldestBlock", .str "0x1312CF0"),
        ("baseFeePerGas", .list [.str "0x3b9aca00", .str "0x3b9aca00"]),
        ("gasUsedRatio", .list [.float (.finite 0)]), ("reward", .list [.list [.str "0x0"]])]),
    ("eth_getBalance", .str "0x0"), ("eth_getCode", .str "0x"),
    ("eth_getStorageAt", .str ethZeroHash), ("eth_getTransactionCount", .str "0x0"),
    ("eth_call", .str "0x"), ("eth_estimateGas", .str "0x5208"),
    ("eth_getBlockByNumber", block ethLatestBlock), ("eth_getBlockByHash", block ethLatestBlock),
    ("eth_getBlockTransactionCountByNumber", .str "0x0"),
    ("eth_getBlockTransactionCountByHash", .str "0x0"),
    ("eth_getUncleCountByBlockNumber", .str "0x0"), ("eth_getUncleCountByBlockHash", .str "0x0"),
    ("eth_getUncleByBlockNumberAndIndex", .none), ("eth_getUncleByBlockHashAndIndex", .none),
    ("eth_getTransactionByHash", tx), ("eth_getTransactionByBlockNumberAndIndex", tx),
    ("eth_getTransactionByBlockHashAndIndex", tx), ("eth_getTransactionReceipt", receipt),
    ("eth_sendRawTransaction", .str ethTxHash), ("eth_getLogs", .list []),
    ("eth_newFilter", .str "0x1"), ("eth_newBlockFilter", .str "0x2"),
    ("eth_newPendingTransactionFilter", .str "0x3"), ("eth_getFilterChanges", .list []),
    ("eth_getFilterLogs", .list []), ("eth_uninstallFilter", .bool true),
    ("net_version", .str "1"), ("net_listening", .bool true), ("net_peerCount", .str "0x10"),
    ("web3_clientVersion", .str "simulator/v1.0.0"),
    ("web3_sha3", .str ("0x" ++ repeated 64 "c")), ("trace_block", .list []),
    ("trace_transaction", .list [traceFrame]), ("trace_get", traceFrame),
    ("trace_call", .object [
        ("output", .str "0x"), ("stateDiff", .none), ("trace", .list [traceFrame]),
        ("vmTrace", .none)]),
    ("trace_callMany", .list []),
    ("trace_rawTransaction", .object [
        ("output", .str "0x"), ("stateDiff", .none), ("trace", .list [traceFrame]),
        ("vmTrace", .none)]),
    ("trace_replayTransaction", .object [
        ("output", .str "0x"), ("stateDiff", .none), ("trace", .list [traceFrame]),
        ("vmTrace", .none)]),
    ("trace_replayBlockTransactions", .list []), ("trace_filter", .list []),
    ("debug_traceTransaction", traceFrame), ("debug_traceBlockByNumber", .list []),
    ("debug_traceBlockByHash", .list []), ("debug_traceCall", traceFrame),
    ("debug_getRawBlock", .str "0x"), ("debug_getRawHeader", .str "0x"),
    ("debug_getRawReceipts", .str "0x"), ("debug_getRawTransaction", .str "0x")]

/-- `ETH_ERROR_STUBS`. -/
def ethErrorStubs : Dict String Value :=
  [("revert", .object [
        ("code", .int 3), ("message", .str "execution reverted"),
        ("data", .str ("0x08c379a0" ++
          "0000000000000000000000000000000000000000000000000000000000000020" ++
          "0000000000000000000000000000000000000000000000000000000000000008" ++
          "7265766572746564000000000000000000000000000000000000000000000000"))]),
    ("oog", .object [("code", .int (-32000)), ("message", .str "out of gas")]),
    ("nonce_too_low", .object [("code", .int (-32000)), ("message", .str "nonce too low")]),
    ("nonce_too_high", .object [("code", .int (-32000)), ("message", .str "nonce too high")]),
    ("mempool_full", .object [("code", .int (-32000)), ("message", .str "txpool is full")]),
    ("pruned_state", .object [("code", .int (-32000)), ("message", .str "missing trie node")]),
    ("future_block", .object [("code", .int (-32000)), ("message", .str "block not found")]),
    ("already_known", .object [("code", .int (-32000)), ("message", .str "already known")]),
    ("insufficient_funds", .object [
        ("code", .int (-32000)), ("message", .str "insufficient funds for gas * price + value")])]

/-! ### Bitcoin -/

def btcLatestBlock : ℤ := 850000

def btcChain : String := "main"

def btcTxHash : String := repeated 32 "ab"

/-- `btc_block_hash` of a whole number. -/
def btcBlockHash (height : ℤ) : String := hex64 height

/-- `block_stub`. -/
def blockStub (height : ℤ) : Value :=
  .object [
      ("hash", .str (btcBlockHash height)), ("confirmations", .int 1), ("height", .int height),
      ("version", .int 536870912), ("merkleroot", .str (repeated 32 "ab")),
      ("time", .int 1700000000), ("nonce", .int 0),
      ("previousblockhash", .str (if 0 < height then btcBlockHash (height - 1) else repeated 64 "0"))]

/-- `blockheader_stub`. -/
def blockheaderStub (height : ℤ) : Value :=
  .object [
      ("hash", .str (btcBlockHash height)), ("confirmations", .int 1), ("height", .int height),
      ("version", .int 536870912), ("time", .int 1700000000), ("nonce", .int 0),
      ("bits", .str "1d00ffff")]

/-- `BTC_METHOD_DEFAULTS`. -/
def btcMethodDefaults : Dict String Value :=
  [("getblockcount", .int btcLatestBlock), ("getblockhash", .str (btcBlockHash btcLatestBlock)),
    ("getbestblockhash", .str (btcBlockHash btcLatestBlock)),
    ("getblock", blockStub btcLatestBlock), ("getblockheader", blockheaderStub btcLatestBlock),
    ("getblockchaininfo", .object [
        ("chain", .str btcChain), ("blocks", .int btcLatestBlock),
        ("headers", .int btcLatestBlock), ("bestblockhash", .str (btcBlockHash btcLatestBlock)),
        ("difficulty", .float (.finite 1)), ("mediantime", .int 1700000000),
        ("verificationprogress", .float (.finite 1)), ("initialblockdownload", .bool false),
        ("pruned", .bool false), ("chainwork", .str (repeated 32 "00"))]),
    ("getblockstats", .object [
        ("height", .int btcLatestBlock), ("blockhash", .str (btcBlockHash btcLatestBlock)),
        ("txs", .int 1), ("total_size", .int 285)]),
    ("getchaintips", .list [
        .object [
            ("height", .int btcLatestBlock), ("hash", .str (btcBlockHash btcLatestBlock)),
            ("branchlen", .int 0), ("status", .str "active")]]),
    ("getchaintxstats", .object [
        ("window_block_count", .int 144), ("txcount", .int 1000000),
        ("window_tx_count", .int 150000)]),
    ("getdifficulty", .float (.finite 1)), ("getconnectioncount", .int 8),
    ("getindexinfo", .object [
        ("txindex", .object [("synced", .bool true), ("best_block_height", .int btcLatestBlock)])]),
    ("getmemoryinfo", .object [
        ("locked", .object [
            ("used", .int 0), ("free", .int 0), ("total", .int 0), ("locked", .int 0),
            ("chunks_used", .int 0), ("chunks_free", .int 0)])]),
    ("getmempoolancestors", .list []), ("getmempooldescendants", .list []),
    ("getmempoolinfo", .object [
        ("size", .int 0), ("bytes", .int 0), ("usage", .int 0), ("maxmempool", .int 300000000),
        ("mempoolminfee", .float (.finite (5902958103587057 / 590295810358705651712)))]),
    ("getrawmempool", .list []),
    ("getrawtransaction", .str ("0100000001" ++ repeated 32 "00" ++ "00000000" ++ "00ffffffff")),
    ("gettxoutproof", .str ""),
    ("gettxoutsetinfo", .object [
        ("height", .int btcLatestBlock), ("bestblock", .str (btcBlockHash btcLatestBlock)),
        ("transactions", .int 1000000), ("txouts", .int 2000000),
        ("total_amount", .float (.finite 19500000))]),
    ("gettxout", .object [
        ("bestblock", .str (btcBlockHash btcLatestBlock)), ("confirmations", .int 1),
        ("value", .float (.finite 0)),
        ("scriptPubKey", .object [("asm", .str ""), ("hex", .str ""), ("type", .str "nonstandard")])]),
    ("sendrawtransaction", .str btcTxHash),
    ("submitpackage", .object [("package_msg", .str "success"), ("tx-results", .list [])]),
    ("testmempoolaccept", .list [.object [("txid", .str btcTxHash), ("allowed", .bool true)]]),
    ("decoderawtransaction", .object [
        ("txid", .str btcTxHash), ("hash", .str btcTxHash), ("version", .int 2),
        ("vin", .list []), ("vout", .list [])]),
    ("decodescript", .object [("asm", .str ""), ("type", .str "nonstandard"), ("p2sh", .str "")]),
    ("estimatesmartfee", .object [
        ("feerate", .float (.finite (5902958103587057 / 590295810358705651712))),
        ("blocks", .int 6)]),
    ("validateaddress", .object [
        ("isvalid", .bool true), ("address", .str "bc1qexampleaddress00000000000000000000000")]),
    ("verifymessage", .bool true)]

/-- `BTC_ERROR_STUBS`. -/
def btcErrorStubs : Dict String Value :=
  [("block_not_found", .object [("code", .int (-5)), ("message", .str "Block not found")]),
    ("tx_not_found", .object [
        ("code", .int (-5)), ("message", .str "No such mempool or blockchain transaction")]),
    ("invalid_parameter", .object [("code", .int (-8)), ("message", .str "Invalid parameter")]),
    ("verify_rejected", .object [("code", .int (-26)), ("message", .str "Transaction was rejected")]),
    ("already_in_chain", .object [
        ("code", .int (-27)), ("message", .str "Transaction already in block chain")]),
    ("in_warmup", .object [("code", .int (-28)), ("message", .str "Loading block index")]),
    ("parse_error", .object [("code", .int (-32700)), ("message", .str "Parse error")]),
    ("invalid_request", .object [("code", .int (-32600)), ("message", .str "Invalid Request")]),
    ("method_not_found", .object [("code", .int (-32601)), ("message", .str "Method not found")])]

/-! ### Lightning -/

def lnNetwork : String := "regtest"

def lnIdentityPubkey : String := "02" ++ repeated 32 "ab"

def lnPeerPubkey : String := "02" ++ repeated 32 "cd"

def lnBlockHeight : ℤ := 850000

def lnNumPeers : ℤ := 1

def lnNumActiveChannels : ℤ := 1

def lnFundingTxid : String := repeated 32 "ab"

def lnChanPoint : String := lnFundingTxid ++ ":0"

def lnPaymentHash : String := repeated 32 "ef"

def lnPaymentPreimage : String := repeated 32 "12"

/-- `LND_METHOD_DEFAULTS`. -/
def lndMethodDefaults : Dict String Value :=
  [("getinfo", .object [
        ("identity_pubkey", .str lnIdentityPubkey), ("alias", .str "sim-lnd"),
        ("num_peers", .int lnNumPeers), ("num_active_channels", .int lnNumActiveChannels),
        ("block_height", .int lnBlockHeight), ("synced_to_chain", .bool true),
        ("synced_to_graph", .bool true),
        ("chains", .list [.object [("chain", .str "bitcoin"), ("network", .str lnNetwork)]])]),
    ("listchannels", .object [
        ("channels", .list [
            .object [
                ("active", .bool true), ("remote_pubkey", .str lnPeerPubkey),
                ("channel_point", .str lnChanPoint), ("chan_id", .str "0"),
                ("capacity", .str "1000000"), ("local_balance", .str "500000"),
                ("remote_balance", .str "500000"), ("private", .bool false)]])]),
    ("openchannel", .object [("funding_txid_str", .str lnFundingTxid), ("output_index", .int 0)]),
    ("decodepayreq", .object [
        ("destination", .str lnIdentityPubkey), ("payment_hash", .str lnPaymentHash),
        ("num_msat", .str "100000"), ("expiry", .str "3600")]),
    ("payinvoice", .object [
        ("payment_preimage", .str lnPaymentPreimage), ("payment_hash", .str lnPaymentHash),
        ("payment_error", .str "")]),
    ("listpeers", .object [
        ("peers", .list [
            .object [
                ("pub_key", .str lnPeerPubkey), ("address", .str "127.0.0.1:9735"),
                ("inbound", .bool false), ("sat_sent", .str "0"), ("sat_recv", .str "0")]])])]

/-- `LND_ERROR_STUBS`. -/
def lndErrorStubs : Dict String Value :=
  [("no_route", .object [
        ("code", .int (-32000)), ("message", .str "unable to find a path to destination")]),
    ("invalid_invoice", .object [("code", .int (-32602)), ("message", .str "invalid bolt11 invoice")]),
    ("channel_not_found", .object [("code", .int (-32000)), ("message", .str "channel not found")]),
    ("peer_not_connected", .object [("code", .int (-32000)), ("message", .str "peer is not connected")]),
    ("insufficient_funds", .object [
        ("code", .int (-32000)), ("message", .str "insufficient local balance to open channel")]),
    ("method_not_found", .object [("code", .int (-32601)), ("message", .str "Method not found")]),
    ("parse_error", .object [("code", .int (-32700)), ("message", .str "Parse error")])]

/-! ### Solana -/

def solanaDefaultSlotBlockGap : ℤ := 21900000

def solanaBlockhash : String := "SiMu1atorBLockhash1111111111111111111111111"

def solanaCoreVersion : String := "1.18.22"

def solanaFeatureSet : ℤ := 3469865029

/-- `SOLANA_ERROR_STUBS`. -/
def solanaErrorStubs : Dict String Value :=
  [("method_not_found", .object [("code", .int (-32601)), ("message", .str "Method not found")]),
    ("invalid_params", .object [("code", .int (-32602)), ("message", .str "Invalid params")]),
    ("node_behind", .object [
        ("code", .int (-32005)), ("message", .str "Node is behind by 100 slots"),
        ("data", .object [("numSlotsBehind", .int 100)])]),
    ("slot_skipped", .object [
        ("code", .int (-32007)),
        ("message", .str "Slot 123456789 was skipped, or missing due to ledger jump to recent snapshot")]),
    ("long_term_storage_slot_skipped", .object [
        ("code", .int (-32009)),
        ("message", .str "Slot 123456789 was skipped, or missing in long-term storage")]),
    ("min_context_slot_not_reached", .object [
        ("code", .int (-32016)), ("message", .str "Minimum context slot has not been reached")]),
    ("transaction_simulation_failed", .object [
        ("code", .int (-32002)), ("message", .str "Transaction simulation failed")]),
    ("blockhash_not_found", .object [
        ("code", .int (-32002)),
        ("message", .str "Transaction simulation failed: Blockhash not found"),
        ("data", .object [("err", .str "BlockhashNotFound")])])]

end ProviderSimulator.Stubs
