import Automaton.Library.EventLoop
import Automaton.Turn.Store

/-!
# The turn of the agent

A turn takes the lock, asks the model round by round, executes the tools that the model calls, and
records what it decided or answers the message it was given. It waits whenever it asks the model or
executes tools, and meanwhile anything else may happen.
-/

namespace Automaton.Turn

open Machine
open Automaton.Agent (ToolSequenceValidator)

/-- `InferenceTranscriptMessage`. -/
inductive InferenceTranscriptMessage
  | assistant (content : Option String) (toolCalls : List ToolCall)
  | tool (toolCallId content : String)
  deriving DecidableEq, Repr

/-- What the model is told to begin with, of the text of `InferenceInput`. -/
inductive InputMarker
  | terminalTurn
  | inbox (bodies : List String)
  | scheduledReviewExplore
  | scheduled (trigger : ScheduledTurnTrigger)
  deriving DecidableEq, Repr

/-- `InferenceInput`, without the prompt. -/
structure InferenceInput where
  input : InputMarker
  decisionRetry : Bool
  turnId : TurnId
  toolScope : InferenceToolScope
  proxyResumeJobId : Option String
  allowGlobalProxyCallbackResume : Bool
  deriving DecidableEq, Repr

/-- `InferenceOutput`. -/
structure InferenceOutput where
  toolCalls : List ToolCall
  explanation : String
  deferredReason : Option InferenceDeferredReason

/-- What a turn looks up at once, outside of its own tables. -/
inductive Query
  | now
  | evmAddressMissing
  | inferenceProxyCounts
  | policyVersion
  | reserves
  | inferenceSuppression
  | dedupeWindowSecs
  | toolSuppression
  | pendingInferenceProxyJobForTurn (turnId : TurnId)
  | webSearchEnabled
  | factoryConfigured
  deriving DecidableEq, Repr

/-- The replies: a time, a flag, the counts of pending jobs and buffered callbacks, a version, the
shortfalls and whether coordination is allowed, when and after how many failures a suppression ends,
a number of seconds, which calls are suppressed, a job, and flags. -/
abbrev Query.Reply : Query → Type
  | .now => ℕ
  | .evmAddressMissing => Bool
  | .inferenceProxyCounts => ℕ × ℕ
  | .policyVersion => ℕ
  | .reserves => List ReserveShortfall × Bool
  | .inferenceSuppression => Option (ℕ × ℕ)
  | .dedupeWindowSecs => ℕ
  | .toolSuppression => ToolCall → Option AutonomySuppressionReason
  | .pendingInferenceProxyJobForTurn _ => Option String
  | .webSearchEnabled => Bool
  | .factoryConfigured => Bool

/-- What a turn waits for. -/
inductive Call
  | deriveAndCacheEvmAddress
  | infer (input : InferenceInput) (transcript : List InferenceTranscriptMessage)
  | dispatchToolCall (call : ToolCall)
  | dispatchToolCalls (first second : ToolCall)
  | reportStarvation (turnId : TurnId) (disposition : String)
  deriving DecidableEq, Repr

/-- What a turn gets when it has waited. -/
abbrev Call.Answer : Call → Type
  | .deriveAndCacheEvmAddress => Except String String
  | .infer _ _ => Except String InferenceOutput
  | .dispatchToolCall _ => Except String String
  | .dispatchToolCalls _ _ => Except String String × Except String String
  | .reportStarvation _ _ => Except String Unit

/-- What turns store, and the calls that they have made. -/
structure TurnWorld where
  store : TurnStore
  calls : List (TurnId × Call)

/-- The tasks of the agent. -/
abbrev turnLoop : EventLoop where
  State := TurnWorld
  Query := Query
  Reply := Query.Reply
  Call := Call
  Answer := Call.Answer
  Head := Empty
  call := nofun

/-- A part of a turn. -/
abbrev Part (α : Type) := Async turnLoop α

/-- A part of a turn that may end early. -/
abbrev Exits (ε α : Type) := Promise turnLoop ε α

/-- Looks something up. -/
def ask (query : Query) : Part query.Reply := .ask query .done

/-- Reads the tables. -/
def readStore : Part TurnStore := .read fun world => .done world.store

/-- Writes the tables. -/
def modifyStore (f : TurnStore → TurnStore) : Part Unit :=
  .write (fun world => { world with store := f world.store }) (.done ())

/-- Makes a call and waits. -/
def request (turnId : TurnId) (call : Call) : Part call.Answer :=
  .write (fun world => { world with calls := world.calls ++ [(turnId, call)] })
    (.await call .done)

/-- What other modules do with texts, and the limits of a turn. -/
structure TurnConfig where
  maxInferenceRounds : ℕ
  maxTurnDurationNs : ℕ
  maxToolCallsPerTurn : ℕ
  quote : String → String
  decodeEnvelope : String → Except String AutonomyDecisionEnvelope
  classifyInferenceFailure : String → InferenceFailureReason
  classifyToolFailureKind : String → String → ToolFailureKind
  classifyForDegradeCounter : ToolCallRecord → Option (String × String × String)
  formatTerminalToolExecutionError : List ToolCallRecord → String
  continuationToolContent : ToolCallRecord → String

/-- `MAX_INFERENCE_ROUNDS_PER_TURN`. -/
def maxInferenceRoundsPerTurn : ℕ := 10

/-- `MAX_TOOL_CALLS_PER_TURN`. -/
def maxToolCallsPerTurn : ℕ := 12

/-- `MAX_STAGED_INBOX_MESSAGES_PER_TURN`. -/
def maxStagedInboxMessagesPerTurn : ℕ := 1

/-- `MAX_AGENT_TURN_DURATION_NS`. -/
def maxAgentTurnDurationNs : ℕ := 90 * 1000000000

/-- The limits are those of `run_scheduled_turn_job_with_trigger`. -/
structure TurnConfig.IsDefault (config : TurnConfig) : Prop where
  rounds : config.maxInferenceRounds = maxInferenceRoundsPerTurn
  duration : config.maxTurnDurationNs = maxAgentTurnDurationNs
  toolCalls : config.maxToolCallsPerTurn = maxToolCallsPerTurn

/-- What a turn knows from its beginning. -/
structure TurnContext where
  config : TurnConfig
  trigger : ScheduledTurnTrigger
  turnId : TurnId
  startedAtNs : ℕ
  initialState : AgentState
  terminalTurn : Bool
  inferenceProvider : InferenceProvider
  stagedMessages : List InboxMessage
  waitState : Option InboxProxyWaitState
  proxyCallbackBuffered : Bool
  policyVersion : ℕ
  constraint : Option AutonomyRuntimeConstraint
  webSearchEnabled : Bool

namespace TurnContext

variable (context : TurnContext)

/-- The ids of the staged messages. -/
def stagedMessageIds : List ℕ := context.stagedMessages.map (·.seq)

/-- There is a message. -/
def hasExternalInput : Bool := context.stagedMessages ≠ []

/-- The trigger of the decision. -/
def decisionTrigger : DecisionTrigger :=
  decisionTriggerForTurn context.trigger context.hasExternalInput

/-- The turn is asked to explore. -/
def explorationActive : Bool :=
  Turn.explorationActive context.trigger context.hasExternalInput context.constraint

/-- The tools that the turn may use. -/
def toolScope : InferenceToolScope :=
  if context.terminalTurn then .terminal
  else (context.constraint.map (·.toolScope)).getD .full

/-- What the model is asked. -/
def input (decisionRetry : Bool) : InferenceInput where
  input :=
    if context.terminalTurn then .terminalTurn
    else if context.hasExternalInput then
      .inbox (context.stagedMessages.map (·.body))
    else if context.explorationActive then .scheduledReviewExplore
    else .scheduled context.trigger
  decisionRetry := decisionRetry
  turnId := context.turnId
  toolScope := context.toolScope
  proxyResumeJobId := context.waitState.bind (·.pendingJobId)
  allowGlobalProxyCallbackResume := !context.hasExternalInput

end TurnContext

/-- What changes in the course of a turn. -/
structure Progress where
  state : AgentState
  lastError : Option String
  allToolCalls : List ToolCallRecord
  assistantReply : Option String
  inferenceRoundCount : ℕ
  continuationStopReason : ContinuationStopReason
  degrade : DegradeTracking
  decisionEnvelope : Option AutonomyDecisionEnvelope
  validator : ToolSequenceValidator
  transcript : List InferenceTranscriptMessage
  inferenceCompleted : Bool
  inferenceDeferred : Bool
  stagedExternalInputHandled : Bool
  executedAnyTool : Bool
  autonomyInferenceError : Option String

/-- The validator of a turn, which knows that a message is not trusted. -/
def TurnContext.newValidator (context : TurnContext) : ToolSequenceValidator :=
  if context.hasExternalInput then ToolSequenceValidator.new.markUntrustedSource "inbox"
  else .new

/-- A turn that is about to ask the model. -/
def TurnContext.start (context : TurnContext) (state : AgentState) : Progress where
  state := state
  lastError := none
  allToolCalls := []
  assistantReply := none
  inferenceRoundCount := 0
  continuationStopReason := .none
  degrade := ⟨∅, ∅⟩
  decisionEnvelope := none
  validator := context.newValidator
  transcript := []
  inferenceCompleted := false
  inferenceDeferred := false
  stagedExternalInputHandled := false
  executedAnyTool := false
  autonomyInferenceError := none

/-- `advance_state`. -/
def advanceState (config : TurnConfig) (turnId : TurnId) (state : AgentState)
    (event : AgentEvent) : Exits String AgentState :=
  match transition state event with
  | .error error => throw (error.message config.quote)
  | .ok next => do
    let nowNs ← ask .now
    modifyStore (·.recordTransition turnId state next event nowNs)
    return next

/-- Advances the state of a turn, whose last error it is if the transition is rejected. -/
def advance (context : TurnContext) (progress : Progress) (event : AgentEvent) :
    Exits Progress Progress := ExceptT.mk do
  match ← (advanceState context.config context.turnId progress.state event).run with
  | .error error => return .error { progress with lastError := some error }
  | .ok next => return .ok { progress with state := next }

/-- Inference is completed when it was not before. -/
def completeInference (context : TurnContext) (progress : Progress) :
    Exits Progress Progress := do
  if progress.inferenceCompleted then return progress
  let progress ← advance context progress .inferenceCompleted
  return { progress with inferenceCompleted := true }

/-- `stop_for_turn_deadline_if_elapsed`. -/
def stopForTurnDeadlineIfElapsed (context : TurnContext) (progress : Progress) :
    Exits Progress Unit := do
  let nowNs ← ask .now
  if context.config.maxTurnDurationNs ≤ nowNs - context.startedAtNs then
    throw { progress with continuationStopReason := .maxDuration }

/-- A turn without a message does not ask the model when its reserves do not allow it, or when the
provider has rejected too much. -/
def stopForRestriction (context : TurnContext) (progress : Progress) : Exits Progress Unit := do
  if context.hasExternalInput || progress.transcript ≠ [] then return
  if let some constraint := context.constraint then
    if !constraint.coordinationActionsAllowed then
      throw { progress with decisionEnvelope := some (constraint.noOpEnvelope
        context.decisionTrigger) }
  let nowNs ← ask .now
  if let some (untilNs, failureCount) ← ask .inferenceSuppression then
    throw { progress with
      decisionEnvelope := some (autonomyNoopEnvelopeForProviderRejectionSuppression
        context.decisionTrigger ((untilNs - nowNs) / 1000000000) failureCount) }

/-- What a part leaves, also when it ends early. -/
def Exits.either {α : Type} (part : Exits α α) : Part α := do
  match ← part.run with
  | .ok value | .error value => return value

/-- A failed inference. -/
def inferenceFailed (context : TurnContext) (progress : Progress) (reason : String) :
    Part Progress := do
  if progress.inferenceRoundCount = 1 then
    if context.hasExternalInput then return { progress with lastError := some reason }
    (completeInference context { progress with autonomyInferenceError := some reason }).either
  else if progress.executedAnyTool then
    return { progress with
      autonomyInferenceError :=
        if context.hasExternalInput then progress.autonomyInferenceError else some reason
      continuationStopReason := .inferenceError }
  else return { progress with lastError := some reason }

/-- The wait of a message for an answer of the proxy, one attempt later. -/
def nextWaitState (context : TurnContext) (pendingJobId : Option String) (nowNs : ℕ) :
    InboxProxyWaitState :=
  let waitState := context.waitState.getD ⟨none, context.turnId, nowNs, 0⟩
  { waitState with
    startedAtNs := if waitState.startedAtNs = 0 then nowNs else waitState.startedAtNs
    waitAttempts := saturatingAdd u32Max waitState.waitAttempts 1
    pendingJobId := waitState.pendingJobId.or pendingJobId }

/-- `PROXY_WAIT_MAX_ATTEMPTS_FOR_STAGED_INBOX`. -/
def proxyWaitMaxAttempts : ℕ := 8

/-- `INFERENCE_PROXY_PENDING_JOB_TTL_SECS` and `PROXY_WAIT_FAIL_CLOSE_GRACE_SECS`. -/
def proxyWaitMaxAgeNs : ℕ := (15 * 60 + 60) * 1000000000

/-- `should_fail_close_proxy_wait`. -/
def shouldFailCloseProxyWait (waitState : InboxProxyWaitState) (nowNs : ℕ) : Bool :=
  proxyWaitMaxAttempts ≤ waitState.waitAttempts ||
    proxyWaitMaxAgeNs ≤ nowNs - waitState.startedAtNs

/-- `proxy_wait_fail_close_reply`. -/
def proxyWaitFailCloseReply (waitState : InboxProxyWaitState) : String :=
  "My inference window closed before completion (job_id=" ++
    waitState.pendingJobId.getD "unknown" ++
    "). A later paid message can reopen the correspondence."

/-- `missing_final_reply_fallback`. -/
def missingFinalReplyFallback : String :=
  "I produced no final reply in this turn. A later paid message can reopen the correspondence."

/-- The messages of a turn are answered and consumed, or the error when the answer is empty. -/
def answerStagedMessages (context : TurnContext) (reply : String) :
    Part (Except String Unit) := do
  let nowNs ← ask .now
  let store ← readStore
  match store.postOutboxMessage context.turnId reply context.stagedMessageIds nowNs with
  | .error error => return .error error
  | .ok answered =>
    modifyStore fun _ => (answered.consumeStagedInboxMessages context.stagedMessageIds
      nowNs).removeWaitStates context.stagedMessageIds
    return .ok ()

/-- The answer of the model is deferred until the proxy calls back. A message does not wait for
ever. -/
def awaitProxyCallback (context : TurnContext) (progress : Progress) : Part Progress := do
  let progress := { progress with inferenceDeferred := true }
  if !context.hasExternalInput || context.inferenceProvider ≠ .openRouterProxyWorker then
    return progress
  let nowNs ← ask .now
  let pendingJobId ← ask (.pendingInferenceProxyJobForTurn context.turnId)
  let waitState := nextWaitState context pendingJobId nowNs
  modifyStore (·.persistWaitState context.stagedMessageIds waitState)
  if !shouldFailCloseProxyWait waitState nowNs then return progress
  match ← answerStagedMessages context (proxyWaitFailCloseReply waitState) with
  | .error error => return { progress with lastError := some error }
  | .ok () => return { progress with
      stagedExternalInputHandled := true, inferenceDeferred := false }

/-- Executes one call, or two calls at once. -/
def executeWave (context : TurnContext) (state : AgentState) :
    Wave → Part (List ToolCallRecord)
  | .single call =>
    match admitCall context.webSearchEnabled state call with
    | .error record => return [record]
    | .ok call => do
      let result ← request context.turnId (.dispatchToolCall call)
      return [recordForResult context.config.classifyToolFailureKind call result]
  | .pair first second =>
    match admitCall context.webSearchEnabled state first,
        admitCall context.webSearchEnabled state second with
    | .error first, .error second => return [first, second]
    | .ok first, .error second => do
      let result ← request context.turnId (.dispatchToolCall first)
      return [recordForResult context.config.classifyToolFailureKind first result, second]
    | .error first, .ok second => do
      let result ← request context.turnId (.dispatchToolCall second)
      return [first, recordForResult context.config.classifyToolFailureKind second result]
    | .ok first, .ok second => do
      let (result, other) ← request context.turnId (.dispatchToolCalls first second)
      return [recordForResult context.config.classifyToolFailureKind first result,
        recordForResult context.config.classifyToolFailureKind second other]

/-- Executes wave after wave. -/
def executeWaves (context : TurnContext) (state : AgentState) :
    List Wave → Part (List ToolCallRecord)
  | [] => return []
  | wave :: rest => do
    let records ← executeWave context state wave
    let others ← executeWaves context state rest
    return records ++ others

/-- `execute_actions_with_history`. -/
def executeActions (context : TurnContext) (state : AgentState) (calls : List ToolCall) :
    Part (List ToolCallRecord) :=
  executeWaves context state (waves 0 calls)

/-- The model is asked, and answers. -/
def inferRound (context : TurnContext) (progress : Progress) :
    Exits Progress (Progress × InferenceOutput) := do
  stopForTurnDeadlineIfElapsed context progress
  stopForRestriction context progress
  let progress := { progress with inferenceRoundCount := progress.inferenceRoundCount + 1 }
  let result ← request context.turnId (.infer (context.input false) progress.transcript)
  stopForTurnDeadlineIfElapsed context progress
  match result with
  | .ok inference => return (progress, inference)
  | .error reason => throw (← inferenceFailed context progress reason)

/-- The answer of the model is taken, unless it is deferred. -/
def acceptInference (context : TurnContext) (progress : Progress) (inference : InferenceOutput) :
    Exits Progress Progress := do
  if !context.hasExternalInput then
    if let some envelope := inference.deferredReason.bind
        (autonomyNoopEnvelopeForInferenceDefer context.decisionTrigger) then
      throw { progress with decisionEnvelope := some envelope }
  if inference.deferredReason = some .proxyCallbackPending then
    throw (← awaitProxyCallback context progress)
  let reply := Text.trim inference.explanation
  let progress :=
    if reply = "" then progress else { progress with assistantReply := some reply }
  completeInference context progress

/-- `should_apply_autonomy_suppression`. -/
def shouldApplyAutonomySuppression (context : TurnContext) (progress : Progress) : Bool :=
  context.trigger = .periodic && !context.hasExternalInput && progress.inferenceRoundCount = 1

/-- The suppressed calls of a round, by their index. -/
def suppressedCalls (context : TurnContext) (progress : Progress)
    (verdict : ToolCall → Option AutonomySuppressionReason) (calls : List ToolCall) :
    List SuppressedToolCall :=
  let suppressed :=
    if shouldApplyAutonomySuppression context progress then suppressAutonomyToolCalls verdict calls
    else []
  if context.hasExternalInput then suppressed
  else (suppressed ++ capSuppressedCalls progress.degrade.capByTool suppressed calls).mergeSort
    fun first second => first.index ≤ second.index

/-- The calls of a round, as many as the turn may still make. -/
def plannedToolCalls (context : TurnContext) (progress : Progress) (inference : InferenceOutput) :
    List ToolCall :=
  (normalizeToolCallIds inference.toolCalls (progress.inferenceRoundCount - 1)).take
    (context.config.maxToolCallsPerTurn - progress.allToolCalls.length)

/-- What is done with the calls of a round. -/
def planRound (context : TurnContext) (progress : Progress) (inference : InferenceOutput) :
    Exits Progress (Progress × List (ToolCall × PlannedToolCallExecution)) := do
  if inference.toolCalls ≠ [] then
    if context.config.maxToolCallsPerTurn - progress.allToolCalls.length = 0 then
      throw { progress with continuationStopReason := .maxToolCalls }
  let calls := plannedToolCalls context progress inference
  let verdict ← ask .toolSuppression
  if calls = [] then throw progress
  let (planned, unused, validator) := planCalls context.toolScope progress.validator
    (suppressedCalls context progress verdict calls) calls.zipIdx
  let progress := { progress with validator := validator }
  if unused ≠ [] then
    throw { progress with
      lastError := some "tool execution record mismatch: unexpected extra suppressed tool" }
  let reply := Text.trim inference.explanation
  return ({ progress with transcript := progress.transcript ++
    [.assistant (if reply = "" then none else some reply) calls] }, calls.zip planned)

/-- The calls that are executed. -/
def executableCalls (planned : List (ToolCall × PlannedToolCallExecution)) : List ToolCall :=
  (planned.filter (·.2 = .execute)).map (·.1)

/-- What a turn without a message learns from the records of a round about failures in a row, and
the error when there is a failure that it cannot go on after. -/
def weighFailures (context : TurnContext) (progress : Progress) (records : List ToolCallRecord) :
    Progress :=
  let cleared :=
    if context.hasExternalInput then progress.degrade
    else (records.filter fun record => record.outcome = .executed && record.success).foldl
      (fun tracking record => tracking.clear record.tool) progress.degrade
  let failures := records.filter fun record =>
    isExecutedFailure record && !isSequenceValidatorBlock record
  if failures = [] then { progress with degrade := cleared }
  else if shouldDegradeToolFailuresForAutonomy failures context.hasExternalInput then
    { progress with degrade := cleared.bump context.config.classifyForDegradeCounter failures }
  else { progress with
    degrade := cleared
    lastError := some (context.config.formatTerminalToolExecutionError failures) }

/-- The records of a round are added, and the model will see them. -/
def recordRound (context : TurnContext) (progress : Progress)
    (planned : List (ToolCall × PlannedToolCallExecution)) (records : List ToolCallRecord) :
    Progress :=
  let progress := weighFailures context progress records
  { progress with
    transcript := progress.transcript ++ (planned.zip records).filterMap fun (entry, record) =>
      entry.1.toolCallId.map fun toolCallId =>
        .tool toolCallId (context.config.continuationToolContent record)
    allToolCalls := progress.allToolCalls ++ records }

/-- The call was suppressed because its tool has failed too often in a row. -/
def PlannedToolCallExecution.isCapSuppressed : PlannedToolCallExecution → Bool
  | .suppressed (.consecutiveDegradeCap _ _) => true
  | _ => false

/-- The calls of a round are executed and recorded. -/
def executeRound (context : TurnContext) (progress : Progress)
    (planned : List (ToolCall × PlannedToolCallExecution)) : Exits Progress Progress := do
  stopForTurnDeadlineIfElapsed context progress
  let executed ← executeActions context progress.state (executableCalls planned)
  stopForTurnDeadlineIfElapsed context progress
  let progress := { progress with
    executedAnyTool := progress.executedAnyTool || executed ≠ [] }
  let dedupeWindowSecs ← ask .dedupeWindowSecs
  match roundRecords dedupeWindowSecs (planned.map (·.1)) (planned.map (·.2)) executed with
  | .error error => throw { progress with lastError := some error }
  | .ok records =>
    let progress := recordRound context progress planned records
    if progress.lastError ≠ none then throw progress
    if planned.any (·.2.isCapSuppressed) && executableCalls planned = [] then throw progress
    return progress

/-- One round: the model is asked and its tool calls are executed. A round that throws is the last
one. -/
def inferenceRound (context : TurnContext) (progress : Progress) : Exits Progress Progress := do
  let (progress, inference) ← inferRound context progress
  let progress ← acceptInference context progress inference
  let (progress, planned) ← planRound context progress inference
  executeRound context progress planned

/-- Round after round, as many as there may be. -/
def inferenceRounds (context : TurnContext) : ℕ → Progress → Exits Progress Progress
  | 0, progress => throw { progress with continuationStopReason := .maxRounds }
  | rounds + 1, progress => do
    let progress ← inferenceRound context progress
    inferenceRounds context rounds progress

/-- After the last round inference is completed, and so are the actions. -/
def completeActions (context : TurnContext) (progress : Progress) : Part Progress := do
  if progress.lastError ≠ none then return progress
  Exits.either do
    let progress ← completeInference context progress
    advance context progress .actionsCompleted

/-- The envelope that a turn has without asking again. -/
def firstEnvelope (context : TurnContext) (progress : Progress) :
    Option AutonomyDecisionEnvelope :=
  (progress.decisionEnvelope.or (progress.autonomyInferenceError.map fun error =>
    autonomyNoopEnvelopeForInferenceError context.config.classifyInferenceFailure error
      context.decisionTrigger)).or
    (progress.assistantReply.bind fun reply =>
      (parseAutonomyDecisionEnvelope context.config.decodeEnvelope reply
        context.decisionTrigger).toOption)

/-- The envelope in the second answer of the model, or one that says that it has none. -/
def retriedEnvelope (context : TurnContext) (output : InferenceOutput) :
    AutonomyDecisionEnvelope :=
  (output.deferredReason.bind
      (autonomyNoopEnvelopeForInferenceDefer context.decisionTrigger)).getD <|
    match parseAutonomyDecisionEnvelope context.config.decodeEnvelope
        (Text.trim output.explanation) context.decisionTrigger with
    | .ok envelope => envelope
    | .error retryError => invalidDecisionEnvelope context.decisionTrigger retryError

/-- The envelope of a turn without a message. The model is asked once more when there is none. -/
def decide (context : TurnContext) (progress : Progress) :
    Exits Progress (Progress × AutonomyDecisionEnvelope) := do
  if let some envelope := firstEnvelope context progress then return (progress, envelope)
  match ← request context.turnId (.infer (context.input true) progress.transcript) with
  | .error error => throw { progress with lastError := some error }
  | .ok output => return ({ progress with
      inferenceRoundCount := progress.inferenceRoundCount + 1 }, retriedEnvelope context output)

/-- `normalize_decision_envelope_for_exploration_action`, then
`normalize_decision_envelope_for_runtime_constraint`. -/
def normalizeEnvelope (context : TurnContext) (progress : Progress)
    (envelope : AutonomyDecisionEnvelope) : AutonomyDecisionEnvelope :=
  normalizeForRuntimeConstraint
    (normalizeForExplorationAction envelope context.explorationActive progress.allToolCalls)
    context.constraint

/-- A turn without a message ends in a decision, unless an answer is still to come. -/
def finalizeDecision (context : TurnContext) (progress : Progress) : Part Progress := do
  if progress.lastError ≠ none || context.hasExternalInput || context.proxyCallbackBuffered ||
      progress.inferenceDeferred then
    return progress
  match ← (Turn.decide context progress).run with
  | .error progress => return progress
  | .ok (progress, envelope) =>
    let nowNs ← ask .now
    modifyStore (·.appendDecisionRecord context.turnId (decisionRecordFromEnvelope nowNs
      context.policyVersion (normalizeEnvelope context progress envelope)))
    return progress

/-- The messages of a turn are answered, if they were not before. -/
def replyToMessages (context : TurnContext) (progress : Progress) : Part Progress := do
  if !context.hasExternalInput || progress.stagedExternalInputHandled then return progress
  match ← answerStagedMessages context
      (progress.assistantReply.getD missingFinalReplyFallback) with
  | .error error => return { progress with lastError := some error }
  | .ok () => return progress

/-- What the turn did is persisted, and it goes to sleep. -/
def persist (context : TurnContext) (progress : Progress) : Part Progress := do
  if progress.lastError ≠ none then return progress
  match ← (advance context progress .persistCompleted).run with
  | .error progress => return progress
  | .ok progress =>
    if progress.inferenceDeferred then return progress
    let progress ← replyToMessages context progress
    if progress.lastError ≠ none then return progress
    match ← (advance context progress .sleepRequested).run with
    | .error _ => return progress
    | .ok progress => return progress

/-- `finalize_terminal_turn`. -/
def finalizeTerminalTurn (turnId : TurnId) (bequestCount finishedAtNs : ℕ) :
    Part (Except String Unit) := do
  if ← ask .factoryConfigured then
    let _ ← request turnId (.reportStarvation turnId
      (if bequestCount = 0 then "monument" else "bequests_executed"))
  let store ← readStore
  match store.agent.completeTerminalTurn (turnIdText turnId) bequestCount finishedAtNs with
  | .error error => return .error error
  | .ok agent =>
    modifyStore ({ · with agent := agent })
    return .ok ()

/-- The record of a turn. -/
def turnRecord (context : TurnContext) (progress : Progress) (finishedAtNs : ℕ) : TurnRecord where
  createdAtNs := context.startedAtNs
  finishedAtNs := finishedAtNs
  stateFrom := context.initialState
  stateTo := progress.state
  sourceEvents := context.stagedMessages.length
  toolCallCount := progress.allToolCalls.length
  inferenceRoundCount := progress.inferenceRoundCount
  continuationStopReason := progress.continuationStopReason
  error := progress.lastError

/-- A turn that has failed says so. -/
def failTurn (context : TurnContext) (progress : Progress) : Part Progress := do
  match progress.lastError with
  | none => return progress
  | some reason =>
    match ← (advance context progress (.turnFailed reason)).run with
    | .error _ => return progress
    | .ok progress => return progress

/-- The end of a turn, which is recorded and gives the lock back. -/
def endTurn (context : TurnContext) (progress : Progress) : Part (Except String Unit) := do
  let progress ← failTurn context progress
  let finishedAtNs ← ask .now
  modifyStore fun store => (store.appendTurnRecord context.turnId
    (turnRecord context progress finishedAtNs) progress.allToolCalls).completeTurn context.turnId
      progress.state progress.lastError
  if context.terminalTurn then
    let bequestCount := (progress.allToolCalls.filter fun record =>
      record.tool = "send_eth" && record.success).length
    if let .error error ← finalizeTerminalTurn context.turnId bequestCount finishedAtNs then
      return .error error
  match progress.lastError with
  | none => return .ok ()
  | some reason => return .error reason

/-- A turn from its first round on. -/
def runTurn (context : TurnContext) (state : AgentState) : Part (Except String Unit) := do
  let progress ← (inferenceRounds context context.config.maxInferenceRounds
    (context.start state)).either
  let progress ← completeActions context progress
  let progress ← finalizeDecision context progress
  let progress ← persist context progress
  endTurn context progress

/-- `should_skip_periodic_turn_for_proxy_wait`. -/
def shouldSkipPeriodicTurnForProxyWait (store : TurnStore) (trigger : ScheduledTurnTrigger)
    (staged : List InboxMessage) (pendingJobs bufferedCallbacks : ℕ) : Bool :=
  trigger = .periodic && staged = [] && store.inferenceProvider = .openRouterProxyWorker &&
    pendingJobs ≠ 0 && bufferedCallbacks = 0

/-- No turn may start. -/
def TurnStore.refusesTurn (store : TurnStore) : Bool :=
  store.agent.mortalityIsDead || !store.agent.snapshot.loopEnabled || store.turnInFlight ||
    (store.agent.snapshot.mortality.phase ≠ .terminalPending &&
      store.walletBalanceBootstrapPending && store.walletBalanceSyncCapable)

/-- The transitions to the state in which a turn infers, or the error with which it ends early. -/
def enterInference (config : TurnConfig) (turnId : TurnId) (state : AgentState) :
    Exits String AgentState := ExceptT.mk do
  match ← (advanceState config turnId state .timerTick).run with
  | .error error =>
    let _ ← (advanceState config turnId state (.turnFailed error)).run
    modifyStore (·.completeTurn turnId .faulted (some error))
    return .error error
  | .ok state =>
    match ← (advanceState config turnId state (.evmPollCompleted 0 true)).run with
    | .error error =>
      modifyStore fun store =>
        { store with lastError := some error }.completeTurn turnId .faulted (some error)
      return .error error
    | .ok state => return .ok state

/-- `run_scheduled_turn_job_with_limits_and_tool_cap_inner`. -/
def runScheduledTurnJobInner (config : TurnConfig) (trigger : ScheduledTurnTrigger) :
    Part (Except String Unit) := do
  let store ← readStore
  if store.refusesTurn then return .ok ()
  let terminalTurn := store.agent.snapshot.mortality.phase = .terminalPending
  let staged := store.listStagedInboxMessages maxStagedInboxMessagesPerTurn
  let (pendingJobs, bufferedCallbacks) ← ask .inferenceProxyCounts
  if shouldSkipPeriodicTurnForProxyWait store trigger staged pendingJobs bufferedCallbacks then
    return .ok ()
  modifyStore (·.incrementTurnCounter)
  let turnId := store.incrementTurnCounter.turnCounter
  let startedAtNs ← ask .now
  if terminalTurn then
    match store.incrementTurnCounter.agent.beginTerminalTurn (turnIdText turnId) startedAtNs with
    | .error error => return .error error
    | .ok agent => modifyStore ({ · with agent := agent })
  if ← ask .evmAddressMissing then
    let _ ← request turnId .deriveAndCacheEvmAddress
  match ← (enterInference config turnId store.state).run with
  | .error error => return .error error
  | .ok state =>
    let current ← readStore
    let policyVersion ← ask .policyVersion
    let (_, bufferedNow) ← ask .inferenceProxyCounts
    let (shortfalls, coordinationAllowed) ← ask .reserves
    let webSearchEnabled ← ask .webSearchEnabled
    let byProxy := store.inferenceProvider = .openRouterProxyWorker
    runTurn {
      config := config
      trigger := trigger
      turnId := turnId
      startedAtNs := startedAtNs
      initialState := store.state
      terminalTurn := terminalTurn
      inferenceProvider := store.inferenceProvider
      stagedMessages := staged
      waitState := if byProxy then staged.findSome? (current.waitStates[·.seq]?) else none
      proxyCallbackBuffered := byProxy && bufferedNow ≠ 0
      policyVersion := policyVersion
      constraint := autonomyRuntimeConstraintForTurn trigger (staged ≠ []) shortfalls
        coordinationAllowed
      webSearchEnabled := webSearchEnabled } state

/-- `run_scheduled_turn_job_with_limits_and_tool_cap`. -/
def runScheduledTurnJob (config : TurnConfig) (trigger : ScheduledTurnTrigger) :
    Part (Except String Unit) := do
  let atStart ← readStore
  let result ← runScheduledTurnJobInner config trigger
  let store ← readStore
  let mortality := store.agent.snapshot.mortality
  if atStart.agent.snapshot.mortality.phase = .terminalPending ∧
      mortality.phase = .terminalInProgress then
    let nowNs ← ask .now
    let finalized ← finalizeTerminalTurn store.turnCounter 0 nowNs
    if let .error error := finalized then return .error error
  return result

end Automaton.Turn
