import Mathlib.Data.Prod.Lex
import Automaton.Library.Fallible
import Automaton.Library.Machine
import Automaton.Util

/-!
# Polling the inbox contract

A poll asks for the logs of a range of confirmed blocks, keeps those of the inbox contract for this
automaton from the cursor on, and moves the cursor behind the last one that it returns.
-/

namespace Automaton.Agent

open Machine

/-- `MAX_BLOCK_RANGE_PER_POLL`. -/
def maxBlockRangePerPoll : ℕ := 1000

/-- `MAX_CURSOR_LAG_BEFORE_FAST_FORWARD_BLOCKS`. -/
def maxCursorLagBeforeFastForwardBlocks : ℕ := maxBlockRangePerPoll * 20

/-- `inbox_message_queued_topic0`, the Keccak hash of
`MessageQueued(address,uint64,address,string,uint256,uint256)`. -/
def inboxMessageQueuedTopic0 : String :=
  "0x307cfeefeb8fe7d8d0fc3ba1da057530a769c1fc4feed817387312c7c8957c79"

/-- `inbox_patronage_topic0`, the Keccak hash of `Patronage(address,address,uint256)`. -/
def inboxPatronageTopic0 : String :=
  "0xcce80b2a3b7bd70ee9a3dc3e45cb304a52f9a9aac4ccde819aa9408365ef9a72"

/-- `EvmPollCursor`. -/
structure EvmPollCursor where
  chainId : ℕ
  contractAddress : Option String
  automatonAddressTopic : Option String
  nextBlock : ℕ
  nextLogIndex : ℕ
  confirmationDepth : ℕ
  lastPollAtNs : ℕ
  consecutiveEmptyPolls : ℕ
  deriving DecidableEq

/-- `RpcLog`. -/
structure RpcLog where
  blockNumber : Option String
  logIndex : Option String
  txHash : Option String
  topics : List String
  address : String
  data : String

/-- `EvmEvent`. -/
structure EvmEvent where
  txHash : String
  chainId : ℕ
  blockNumber : ℕ
  logIndex : ℕ
  source : String
  payload : String
  deriving DecidableEq

/-- `EvmPollResult`. -/
structure EvmPollResult where
  cursor : EvmPollCursor
  events : List EvmEvent
  deriving DecidableEq

/-- `parse_hex_u64` of the EVM features, without its error texts: a sign may stand before the
digits. -/
def Evm.parseHexU64 (raw : String) : Option ℕ := do
  let value := Text.trim raw
  let withoutPrefix ← Text.stripPrefix? "0x" value <|> Text.stripPrefix? "0X" value
  let digits := ((Text.stripPrefix? "+" withoutPrefix).getD withoutPrefix).toList
  if digits ≠ [] ∧ digits.all Text.isHexDigit then Hex.parseUnsigned u64Max digits else none

/-- `normalize_topic`. -/
def normalizeTopic (raw field : String) : Except String String := do
  let normalized ← normalizeHexBlob raw field
  if normalized.utf8ByteSize ≠ 66 then throw (field ++ " must be a 32-byte topic")
  return normalized

/-- `effective_from_block`. -/
def effectiveFromBlock (cursor : EvmPollCursor) (confirmedHead bootstrapLookbackBlocks : ℕ) : ℕ :=
  if cursor.nextBlock = 0 then confirmedHead - bootstrapLookbackBlocks
  else if maxCursorLagBeforeFastForwardBlocks < confirmedHead - cursor.nextBlock then
    confirmedHead - bootstrapLookbackBlocks
  else cursor.nextBlock

/-- `poll_log_topic_filters`. -/
def pollLogTopicFilters (topic1 : String) : List String × List String :=
  ([inboxMessageQueuedTopic0, topic1], [inboxPatronageTopic0, topic1])

/-- The place of an event in the chain. -/
def EvmEvent.position (event : EvmEvent) : ℕ ×ₗ ℕ := toLex (event.blockNumber, event.logIndex)

/-- The event of a log at a place, unless its address, its topics, its hash or its data make the loop
of `filter_route_matched_logs` skip it. -/
def eventAt (chainId : ℕ) (expectedContract expectedTopic1 : String) (blockNumber logIndex : ℕ)
    (log : RpcLog) : Option EvmEvent := do
  let source ← (normalizeEvmAddress log.address).toOption
  if source ≠ expectedContract then none
  else
    let topic0 ← (← log.topics[0]?.map (normalizeTopic · "topic0")).toOption
    if ¬ (topic0 = inboxMessageQueuedTopic0 ∨ topic0 = inboxPatronageTopic0) then none
    else
      let topic1 ← (← log.topics[1]?.map (normalizeTopic · "topic1")).toOption
      if topic1 ≠ expectedTopic1 then none
      else
        let txHash ← (← log.txHash.map (normalizeHexBlob · "transactionHash")).toOption
        if txHash.utf8ByteSize ≠ 66 then none
        else
          let payload ← (normalizeHexBlob log.data "data").toOption
          some { txHash, chainId, blockNumber, logIndex, source, payload }

/-- The loop body of `filter_route_matched_logs`: the event of a log, unless the log is skipped. -/
def matchedEvent (cursor : EvmPollCursor) (expectedContract expectedTopic1 : String)
    (log : RpcLog) : Option EvmEvent := do
  let blockNumber ← log.blockNumber.bind Evm.parseHexU64
  let logIndex ← log.logIndex.bind Evm.parseHexU64
  if blockNumber < cursor.nextBlock then none
  else if blockNumber = cursor.nextBlock ∧ logIndex < cursor.nextLogIndex then none
  else eventAt cursor.chainId expectedContract expectedTopic1 blockNumber logIndex log

/-- `Vec::dedup_by` for the events of one log after a first event: an event goes when it repeats the
one that was kept before it. -/
def dedupAfter (event : EvmEvent) : List EvmEvent → List EvmEvent
  | [] => [event]
  | next :: events =>
    if next.position = event.position ∧ next.txHash = event.txHash then dedupAfter event events
    else event :: dedupAfter next events

/-- `Vec::dedup_by` for the events of one log. -/
def dedupEvents : List EvmEvent → List EvmEvent
  | [] => []
  | event :: events => dedupAfter event events

/-- `filter_route_matched_logs`. -/
def filterRouteMatchedLogs (logs : List RpcLog) (cursor : EvmPollCursor)
    (expectedContract expectedTopic1 : String) (maxLogsPerPoll : ℕ) :
    Except String (List EvmEvent) := do
  let expectedContract ← normalizeEvmAddress expectedContract
  let expectedTopic1 ← normalizeTopic expectedTopic1 "topic1"
  let events := logs.filterMap (matchedEvent cursor expectedContract expectedTopic1)
  let sorted := events.insertionSort fun first second => first.position ≤ second.position
  return (dedupEvents sorted).take maxLogsPerPoll

/-- The calls of the RPC client that a poll makes. -/
structure EvmRpc where
  ethBlockNumber : Except String ℕ
  ethGetLogs : ℕ → ℕ → String → List String → Except String (List RpcLog)

/-- `HttpEvmPoller` without its client. -/
structure HttpEvmPoller where
  maxLogsPerPoll : ℕ
  bootstrapLookbackBlocks : ℕ
  logFilterAddress : String
  logFilterTopics : List String

namespace HttpEvmPoller

/-- The last block of the range of a poll. -/
def toBlock (confirmedHead fromBlock : ℕ) : ℕ :=
  min confirmedHead (saturatingAdd u64Max fromBlock maxBlockRangePerPoll)

/-- The place after the events of a poll. -/
def nextPosition (maxLogsPerPoll lastBlock : ℕ) (events : List EvmEvent) : ℕ × ℕ :=
  match events.getLast? with
  | some last =>
    if events.length = maxLogsPerPoll then
      (last.blockNumber, saturatingAdd u64Max last.logIndex 1)
    else (saturatingAdd u64Max lastBlock 1, 0)
  | none => (saturatingAdd u64Max lastBlock 1, 0)

/-- `poll`. -/
def poll (poller : HttpEvmPoller) (rpc : EvmRpc) (cursor : EvmPollCursor) :
    Except String EvmPollResult := do
  let latestBlock ← rpc.ethBlockNumber
  let confirmedHead := latestBlock - cursor.confirmationDepth
  let fromBlock := effectiveFromBlock cursor confirmedHead poller.bootstrapLookbackBlocks
  let lastBlock := toBlock confirmedHead fromBlock
  if lastBlock < fromBlock then return { cursor, events := [] }
  let topic1 ← poller.logFilterTopics[1]?.elim (throw "log filter topic1 is missing") pure
  let (messageTopics, patronageTopics) := pollLogTopicFilters topic1
  let messages ← rpc.ethGetLogs fromBlock lastBlock poller.logFilterAddress messageTopics
  let patronages ← rpc.ethGetLogs fromBlock lastBlock poller.logFilterAddress patronageTopics
  let events ← filterRouteMatchedLogs (messages ++ patronages) cursor poller.logFilterAddress
    topic1 poller.maxLogsPerPoll
  let next := nextPosition poller.maxLogsPerPoll lastBlock events
  return { cursor := { cursor with nextBlock := next.1, nextLogIndex := next.2 }, events }

end HttpEvmPoller

end Automaton.Agent
