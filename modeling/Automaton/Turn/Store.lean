import Automaton.Agent.Mortality
import Automaton.Turn.Decision

/-!
# What turns store

A turn takes the lock of the runtime and gives it back, records the transitions that it makes, and
answers a staged message of the inbox with a message in the outbox. A message is posted, staged and
consumed, in this order.
-/

namespace Automaton.Turn

open Machine

/-- A turn is known by its number, which `turn-{}` prints. -/
abbrev TurnId := ℕ

/-- The id of a turn as it is printed. -/
def turnIdText (turnId : TurnId) : String := "turn-" ++ toString turnId

/-- `InferenceProvider`. -/
inductive InferenceProvider
  | icLlm
  | openRouter
  | openRouterProxyWorker
  deriving DecidableEq, Repr

/-- `InboxMessageStatus`. -/
inductive InboxMessageStatus
  | pending
  | staged
  | consumed
  deriving DecidableEq, Repr

/-- `InboxMessage`, whose id `inbox:{:020}` prints its number. -/
structure InboxMessage where
  seq : ℕ
  body : String
  postedAtNs : ℕ
  postedBy : String
  status : InboxMessageStatus
  stagedAtNs : Option ℕ
  consumedAtNs : Option ℕ
  deriving DecidableEq, Repr

/-- `OutboxMessage`, whose id `outbox:{:020}` prints its number. -/
structure OutboxMessage where
  seq : ℕ
  turnId : TurnId
  body : String
  createdAtNs : ℕ
  sourceInboxIds : List ℕ
  deriving DecidableEq, Repr

/-- `InboxProxyWaitState`, under the message that waits. -/
structure InboxProxyWaitState where
  pendingJobId : Option String
  submittedTurnId : TurnId
  startedAtNs : ℕ
  waitAttempts : ℕ
  deriving DecidableEq, Repr

/-- `TransitionLogRecord`, with the event itself. -/
structure TransitionLogRecord where
  turnId : TurnId
  fromState : AgentState
  toState : AgentState
  event : AgentEvent
  occurredAtNs : ℕ
  deriving DecidableEq, Repr

/-- `ContinuationStopReason`. -/
inductive ContinuationStopReason
  | none
  | maxRounds
  | maxDuration
  | inferenceError
  | maxToolCalls
  deriving DecidableEq, Repr

/-- `TurnRecord`, without the inner dialogue. -/
structure TurnRecord where
  createdAtNs : ℕ
  finishedAtNs : ℕ
  stateFrom : AgentState
  stateTo : AgentState
  sourceEvents : ℕ
  toolCallCount : ℕ
  inferenceRoundCount : ℕ
  continuationStopReason : ContinuationStopReason
  error : Option String
  deriving DecidableEq, Repr

/-- The part of the runtime snapshot and the tables that turns read and write. -/
structure TurnStore where
  agent : Agent.AgentState
  state : AgentState
  turnCounter : ℕ
  lastTurnId : Option TurnId
  lastError : Option String
  inferenceProvider : InferenceProvider
  walletBalanceBootstrapPending : Bool
  walletBalanceSyncCapable : Bool
  transitions : List TransitionLogRecord
  turns : BTreeMap TurnId TurnRecord
  toolCalls : BTreeMap TurnId (List ToolCallRecord)
  inboxSeq : ℕ
  inbox : BTreeMap ℕ InboxMessage
  outboxSeq : ℕ
  outbox : BTreeMap ℕ OutboxMessage
  waitStates : BTreeMap ℕ InboxProxyWaitState
  decisions : BTreeMap TurnId DecisionRecord

namespace TurnStore

variable (store : TurnStore)

/-- The lock of the runtime. -/
def turnInFlight : Bool := store.agent.snapshot.turnInFlight

/-- The lock is taken or given back. -/
def setTurnInFlight (turnInFlight : Bool) : TurnStore :=
  { store with agent := { store.agent with
      snapshot := { store.agent.snapshot with turnInFlight := turnInFlight } } }

/-- `increment_turn_counter`. -/
def incrementTurnCounter : TurnStore :=
  let turnCounter := saturatingAdd u64Max store.turnCounter 1
  { store.setTurnInFlight true with
    turnCounter := turnCounter
    lastTurnId := some turnCounter
    lastError := none }

/-- `record_transition`. -/
def recordTransition (turnId : TurnId) (fromState toState : AgentState) (event : AgentEvent)
    (nowNs : ℕ) : TurnStore :=
  { store with transitions := store.transitions ++ [⟨turnId, fromState, toState, event, nowNs⟩] }

/-- `append_turn_record`. -/
def appendTurnRecord (turnId : TurnId) (record : TurnRecord) (toolCalls : List ToolCallRecord) :
    TurnStore :=
  { store with
    turns := store.turns.insert turnId record
    toolCalls := store.toolCalls.insert turnId toolCalls }

/-- `complete_turn`. -/
def completeTurn (turnId : TurnId) (state : AgentState) (error : Option String) : TurnStore :=
  if store.lastTurnId ≠ some turnId then store
  else { store.setTurnInFlight false with state := state, lastError := error }

/-- `recover_orphaned_turn_lock`. -/
def recoverOrphanedTurnLock (nowNs : ℕ) : TurnStore :=
  if store.agent.store.mutatingLeaseActive nowNs || !store.turnInFlight then store
  else { store with
    agent := store.agent.recoverOrphanedTurnLock nowNs
    lastError := some ("recovered orphaned turn lock for " ++
      (store.lastTurnId.map turnIdText).getD "turn-unknown" ++ ": no active mutating lease") }

/-- `post_inbox_message_with_source`, after the body was normalized. -/
def postInboxMessage (body postedBy : String) (nowNs : ℕ) : TurnStore :=
  let seq := saturatingAdd u64Max store.inboxSeq 1
  { store with
    inboxSeq := seq
    inbox := store.inbox.insert seq ⟨seq, body, nowNs, postedBy, .pending, none, none⟩ }

/-- The messages with a status, in the order in which they were posted. -/
def listByStatus (status : InboxMessageStatus) (batchSize : ℕ) : List InboxMessage :=
  ((store.inbox.toList.map (·.2)).filter (·.status = status)).take batchSize

/-- `list_staged_inbox_messages`. -/
def listStagedInboxMessages (batchSize : ℕ) : List InboxMessage :=
  store.listByStatus .staged batchSize

/-- `stage_pending_inbox_messages`. -/
def stagePendingInboxMessages (batchSize nowNs : ℕ) : TurnStore :=
  { store with
    inbox := (store.listByStatus .pending batchSize).foldl (fun inbox message =>
      inbox.insert message.seq { message with status := .staged, stagedAtNs := some nowNs })
      store.inbox }

/-- A staged message is consumed. -/
def InboxMessage.consume (nowNs : ℕ) (message : InboxMessage) : InboxMessage :=
  if message.status = .staged then
    { message with status := .consumed, consumedAtNs := some nowNs }
  else message

/-- `consume_staged_inbox_messages`. -/
def consumeStagedInboxMessages (ids : List ℕ) (nowNs : ℕ) : TurnStore :=
  { store with
    inbox := ids.foldl (fun inbox id => inbox.modify id (InboxMessage.consume nowNs)) store.inbox }

/-- `post_outbox_message`. -/
def postOutboxMessage (turnId : TurnId) (body : String) (sourceInboxIds : List ℕ) (nowNs : ℕ) :
    Except String TurnStore :=
  if Text.trim body = "" then .error "outbox message cannot be empty"
  else
    let seq := saturatingAdd u64Max store.outboxSeq 1
    .ok { store with
      outboxSeq := seq
      outbox := store.outbox.insert seq ⟨seq, turnId, Text.trim body, nowNs, sourceInboxIds⟩ }

/-- `upsert_inbox_proxy_wait_state` for each of the messages, which fails without a write when the
job has no name. -/
def persistWaitState (ids : List ℕ) (waitState : InboxProxyWaitState) : TurnStore :=
  if waitState.pendingJobId.any fun jobId => Text.trim jobId = "" then store
  else { store with
    waitStates := ids.foldl (fun waitStates id => waitStates.insert id waitState)
      store.waitStates }

/-- `remove_inbox_proxy_wait_states`. -/
def removeWaitStates (ids : List ℕ) : TurnStore :=
  { store with waitStates := ids.foldl (fun waitStates id => waitStates.erase id) store.waitStates }

/-- `append_decision_record`, which is never refused, since a turn has a name. -/
def appendDecisionRecord (turnId : TurnId) (record : DecisionRecord) : TurnStore :=
  { store with decisions := store.decisions.insert turnId record }

end TurnStore

end Automaton.Turn
