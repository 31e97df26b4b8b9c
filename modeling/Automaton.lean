import Automaton.Agent.Death
import Automaton.Agent.Dedupe
import Automaton.Agent.EventIngestion
import Automaton.Agent.EvmPollRuns
import Automaton.Agent.HttpFetch
import Automaton.Agent.Hysteresis
import Automaton.Agent.InboxCodec
import Automaton.Agent.Journal
import Automaton.Agent.JsonPath
import Automaton.Agent.LeaseSafety
import Automaton.Agent.MemoryFacts
import Automaton.Agent.PollCursor
import Automaton.Agent.ProxyDelivery
import Automaton.Agent.RoomDelivery
import Automaton.Agent.StewardProofRuns
import Automaton.Agent.ToolSequence
import Automaton.Agent.TopUpAdvance
import Automaton.Agent.TopUpSafety
import Automaton.Agent.UntrustedFrame
import Automaton.Evaluator.RunController
import Automaton.Evm.EscrowSafety
import Automaton.Evm.InboxCalls
import Automaton.Factory.AuditTrail
import Automaton.Factory.FailedScan
import Automaton.Factory.PaymentCoherence
import Automaton.Factory.PaymentPoller
import Automaton.Factory.RefundExclusion
import Automaton.Factory.RefundFencing
import Automaton.Factory.RegistryAgreement
import Automaton.Factory.RejectedCommands
import Automaton.Factory.ReleaseNonces
import Automaton.Factory.ReproductionSettlement
import Automaton.Factory.RetryExpiry
import Automaton.Factory.RoomLog
import Automaton.Factory.ScanAgreement
import Automaton.Factory.ScanWindows
import Automaton.Factory.SpawnSchedule
import Automaton.Factory.StewardReplay
import Automaton.Factory.Storage
import Automaton.Factory.Transaction
import Automaton.Indexer.FaucetLimits
import Automaton.Indexer.Listings
import Automaton.Indexer.Metabolism
import Automaton.Indexer.RoomMirror
import Automaton.Library.Abi
import Automaton.Library.Coroutine
import Automaton.Library.EventLoop
import Automaton.Library.HexWords
import Automaton.Library.Json
import Automaton.Library.Keccak
import Automaton.Library.Metered
import Automaton.Library.Paging
import Automaton.Library.Trail
import Automaton.Library.Url
import Automaton.OpenRouterProxy.TenantIsolation
import Automaton.RpcGateway.RateLimiter
import Automaton.SpawnProtocol.ClaimId
import Automaton.SpawnProtocol.ConstitutionMutation
import Automaton.Strategy.AbiCanonical
import Automaton.Strategy.AbiEncoding
import Automaton.Strategy.BroadcastSafety
import Automaton.Strategy.Budget
import Automaton.Strategy.Compiler
import Automaton.Strategy.DiscoveryRuns
import Automaton.Strategy.ExposureReconciliation
import Automaton.Strategy.KeySpelling
import Automaton.Strategy.NamedArguments
import Automaton.Strategy.PlanSafety
import Automaton.Strategy.Quarantine
import Automaton.Strategy.ReceiptIsolation
import Automaton.Strategy.Registry
import Automaton.Strategy.RiskChecks
import Automaton.Strategy.SpendingLimits
import Automaton.Strategy.SpendingPolicy
import Automaton.Strategy.TemplateLifecycle
import Automaton.Turn.Engine
