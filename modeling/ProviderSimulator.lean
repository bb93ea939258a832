import ProviderSimulator.Lib.Dict
import ProviderSimulator.Lib.Machine
import ProviderSimulator.Python.Value
import ProviderSimulator.Domain.CallLog
import ProviderSimulator.Domain.CallLogExact
import ProviderSimulator.Lib.Threads
import ProviderSimulator.RespProxy.Model
import ProviderSimulator.RespProxy.CutOff
import ProviderSimulator.Ports.PortGate
import ProviderSimulator.Ports.Settle
import ProviderSimulator.Ports.SettleHolds
import ProviderSimulator.Ports.ClosePort
import ProviderSimulator.Ports.HttpPortLoop
import ProviderSimulator.Ports.HttpPortLoopHonest
import ProviderSimulator.Domain.Endpoint
import ProviderSimulator.Domain.Scenario
import ProviderSimulator.Domain.Quirks
import ProviderSimulator.Domain.Provider
import ProviderSimulator.FaultPolicy
import ProviderSimulator.Control.Rules
import ProviderSimulator.Control.ApplyScenario
import ProviderSimulator.Control.AllOrNothing
import ProviderSimulator.Control.PortClosed
import ProviderSimulator.Control.FailWindow
import ProviderSimulator.Lib.Flow
import ProviderSimulator.Python.Host
import ProviderSimulator.Stubs.JsonRpc
import ProviderSimulator.GraphqlDocument
import ProviderSimulator.Stubs.Lava
import ProviderSimulator.Chains.JsonRpc
import ProviderSimulator.Chains.Lava
import ProviderSimulator.Chains.Sui
import ProviderSimulator.Listeners.Base
import ProviderSimulator.Listeners.Interfaces
import ProviderSimulator.Control.StoredBlocks
import ProviderSimulator.Listeners.Reads
import ProviderSimulator.Listeners.OneScenario
import ProviderSimulator.Listeners.Scope
import ProviderSimulator.RespProxy.Stream
import ProviderSimulator.RespProxy.IdleClose
import ProviderSimulator.RespProxy.ClosedCount
import ProviderSimulator.Ports.LoopRefines
import ProviderSimulator.Ports.PortTraffic
import ProviderSimulator.Control.ChosenMetadata
import ProviderSimulator.CacheSim.Model
import ProviderSimulator.CacheSim.Reset
import ProviderSimulator.Listeners.WsSubscriptions
import ProviderSimulator.Listeners.Course
import ProviderSimulator.Listeners.HiddenState
import ProviderSimulator.Chains.Answers
import ProviderSimulator.Control.StoredShapes
import ProviderSimulator.Chains.EthAnswers
import ProviderSimulator.Chains.CoinAnswers
import ProviderSimulator.Listeners.Totality
import ProviderSimulator.Domain.AdvancingHead
import ProviderSimulator.Domain.CallLogRenewed
import ProviderSimulator.Control.Advance
import ProviderSimulator.Control.SameProviders
import ProviderSimulator.Simulator.Model
import ProviderSimulator.Simulator.Renewed
import ProviderSimulator.Chains.SuiDigest
import ProviderSimulator.Listeners.WsProtocol
import ProviderSimulator.Listeners.WsMessages
import ProviderSimulator.Domain.BuildRegistry
import ProviderSimulator.Control.Addressing
import ProviderSimulator.Control.Sweep
import ProviderSimulator.Domain.CallLogTimes
import ProviderSimulator.Listeners.WsEmit
import ProviderSimulator.Listeners.Bookkeeping
import ProviderSimulator.Simulator.PlanAndRow
import ProviderSimulator.Control.EveryBody
import ProviderSimulator.Graphql.Reader
import ProviderSimulator.Lib.Expansion
import ProviderSimulator.Graphql.Depth
import ProviderSimulator.Graphql.Nodes
import ProviderSimulator.Graphql.Limits
import ProviderSimulator.Domain.HeadForward
import ProviderSimulator.CacheSim.Recorded
import ProviderSimulator.Control.CacheStage
import ProviderSimulator.Control.StagedSafely
import ProviderSimulator.Control.AdvanceSafe
import ProviderSimulator.Lib.Utf8
import ProviderSimulator.RespStore.Wire
import ProviderSimulator.RespStore.Pieces
import ProviderSimulator.RespStore.Front
import ProviderSimulator.RespStore.RoundTrip
import ProviderSimulator.RespStore.Malformed
import ProviderSimulator.RespStore.Store
import ProviderSimulator.RespStore.Scan
import ProviderSimulator.RespStore.Deletion
import ProviderSimulator.RespStore.Entries
import ProviderSimulator.Graphql.Project
import ProviderSimulator.Graphql.Shaped
import ProviderSimulator.Graphql.Accepted
import ProviderSimulator.Graphql.Merge
import ProviderSimulator.Chains.SuiCheckpoints
import ProviderSimulator.Chains.EthHeads
import ProviderSimulator.Chains.BtcBlocks
import ProviderSimulator.Chains.ServedAsWritten
import ProviderSimulator.Lib.Recent
import ProviderSimulator.Simulator.ReadAfterWrite
import ProviderSimulator.Control.History
import ProviderSimulator.Simulator.KeyedRows
import ProviderSimulator.Chains.TendermintCalls
import ProviderSimulator.Lib.TwoRuns
import ProviderSimulator.Listeners.TwoRequests
import ProviderSimulator.Listeners.TendermintForms
import ProviderSimulator.Listeners.HeadAndGet
import ProviderSimulator.Lib.HttpHead
import ProviderSimulator.Listeners.WsHandshake
import ProviderSimulator.Lib.MediaType
import ProviderSimulator.Listeners.ContentType
import ProviderSimulator.Lib.Split
import ProviderSimulator.Listeners.DottedRemoval
import ProviderSimulator.Listeners.RemovalInMemory
import ProviderSimulator.Lib.JsonText
import ProviderSimulator.Listeners.Truncated
import ProviderSimulator.Listeners.GrpcMessages
import ProviderSimulator.Listeners.GrpcReplies
import ProviderSimulator.Listeners.GrpcRows
import ProviderSimulator.Lib.Simulation
import ProviderSimulator.Ports.GrpcPortLoop
import ProviderSimulator.Ports.SettledLoops
import ProviderSimulator.Lib.HttpMessage
import ProviderSimulator.Listeners.HttpReply
import ProviderSimulator.Listeners.HttpReplyRead
import ProviderSimulator.Lib.Noninterference
import ProviderSimulator.Simulator.Isolation
import ProviderSimulator.RespProxy.Counters
import ProviderSimulator.Lib.Linearized
import ProviderSimulator.RespProxy.Linear
import ProviderSimulator.RespProxy.Api
import ProviderSimulator.Listeners.WsSession
import ProviderSimulator.Chains.LavaTips
import ProviderSimulator.Ports.Ready
import ProviderSimulator.RespProxy.ClosedCause
import ProviderSimulator.Listeners.WsViews
