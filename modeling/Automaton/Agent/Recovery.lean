import Automaton.Agent.JobQueue
import Automaton.Library.Text

/-!
# Recovery of failed jobs

The error of a failed job is classified and the recovery policy decides whether the job is
retried, and when. The classification of error texts is a parameter.
-/

namespace Automaton.Agent

open Machine

/-- `OutcallFailureKind`. -/
inductive OutcallFailureKind
  | responseTooLarge
  | timeout
  | transport
  | rateLimited
  | upstreamUnavailable
  | invalidRequest
  | invalidResponse
  | rejectedByPolicy
  | unknown
  deriving DecidableEq, Repr

/-- `OperationFailureKind`. -/
inductive OperationFailureKind
  | blockedBySurvivalPolicy
  | missingConfiguration
  | invalidConfiguration
  | insufficientCycles
  | unauthorized
  | deterministic
  | unknown
  deriving DecidableEq, Repr

/-- `RecoveryFailure`. The observed size of a response is not used. -/
inductive RecoveryFailure
  | outcall (kind : OutcallFailureKind) (retryAfterSecs : Option ℕ)
  | operation (kind : OperationFailureKind)
  deriving DecidableEq, Repr

/-- `RecoveryPolicyAction`. -/
inductive RecoveryPolicyAction
  | skip
  | retryImmediate
  | backoff
  | tuneResponseLimit
  | escalateFault
  deriving DecidableEq, Repr

/-- `RecoveryDecisionReason`. -/
inductive RecoveryDecisionReason
  | responseTooLarge
  | responseLimitAlreadyMaxed
  | transientOutcallFailure
  | outcallRateLimited
  | nonRetriableOutcallFailure
  | survivalPolicyBlocked
  | insufficientCycles
  | nonRetriableOperationFailure
  | unknownFailure
  deriving DecidableEq, Repr

/-- `RecoveryOperation`, as far as jobs have one. -/
inductive RecoveryOperation
  | evmPoll
  | inference
  | unknown
  deriving DecidableEq, Repr

/-- `ResponseLimitAdjustment`. -/
structure ResponseLimitAdjustment where
  fromBytes : ℕ
  toBytes : ℕ
  deriving DecidableEq, Repr

/-- `ResponseLimitPolicy`. -/
structure ResponseLimitPolicy where
  currentBytes : ℕ
  minBytes : ℕ
  maxBytes : ℕ
  tuneMultiplier : ℕ
  deriving DecidableEq, Repr

/-- `RecoveryContext`. -/
structure RecoveryContext where
  operation : RecoveryOperation
  consecutiveFailures : ℕ
  backoffBaseSecs : ℕ
  backoffMaxSecs : ℕ
  responseLimit : Option ResponseLimitPolicy
  deriving DecidableEq, Repr

/-- `RecoveryDecision`. -/
structure RecoveryDecision where
  action : RecoveryPolicyAction
  reason : RecoveryDecisionReason
  backoffSecs : Option ℕ := none
  responseLimitAdjustment : Option ResponseLimitAdjustment := none
  deriving DecidableEq, Repr

/-- `clamp`. -/
def clamp (value low high : ℕ) : ℕ := max low (min value high)

/-- `exponential_backoff_secs`. -/
def exponentialBackoffSecs (baseSecs maxSecs consecutiveFailures : ℕ) : ℕ :=
  let boundedMax := max maxSecs 1
  let boundedBase := clamp baseSecs 1 boundedMax
  min (saturatingMul u64Max boundedBase (2 ^ min consecutiveFailures 20)) boundedMax

/-- `backoff_decision`. -/
def backoffDecision (context : RecoveryContext) (retryAfterSecs : Option ℕ)
    (reason : RecoveryDecisionReason) : RecoveryDecision :=
  let boundedMax := max context.backoffMaxSecs 1
  let computed := exponentialBackoffSecs context.backoffBaseSecs boundedMax
    context.consecutiveFailures
  { action := .backoff
    reason := reason
    backoffSecs := some (clamp (retryAfterSecs.getD computed) 1 boundedMax) }

/-- `next_response_limit_adjustment`. -/
def nextResponseLimitAdjustment (limit : ResponseLimitPolicy) : Option ResponseLimitAdjustment :=
  let minBytes := max limit.minBytes 1
  let maxBytes := max limit.maxBytes minBytes
  let fromBytes := clamp limit.currentBytes minBytes maxBytes
  let toBytes := clamp (saturatingMul u64Max fromBytes (max limit.tuneMultiplier 2)) minBytes
    maxBytes
  if fromBytes < toBytes then some ⟨fromBytes, toBytes⟩ else none

/-- `decide_recovery_action`. -/
def decideRecoveryAction (failure : RecoveryFailure) (context : RecoveryContext) :
    RecoveryDecision :=
  match failure with
  | .outcall .responseTooLarge retryAfterSecs =>
    match context.responseLimit.bind nextResponseLimitAdjustment with
    | some adjustment =>
      { action := .tuneResponseLimit
        reason := .responseTooLarge
        responseLimitAdjustment := some adjustment }
    | none => backoffDecision context retryAfterSecs .responseLimitAlreadyMaxed
  | .outcall .timeout retryAfterSecs
  | .outcall .transport retryAfterSecs
  | .outcall .upstreamUnavailable retryAfterSecs =>
    if context.consecutiveFailures = 0 then
      { action := .retryImmediate, reason := .transientOutcallFailure }
    else backoffDecision context retryAfterSecs .transientOutcallFailure
  | .outcall .rateLimited retryAfterSecs =>
    backoffDecision context retryAfterSecs .outcallRateLimited
  | .outcall .invalidRequest _
  | .outcall .rejectedByPolicy _ =>
    { action := .escalateFault, reason := .nonRetriableOutcallFailure }
  | .outcall .invalidResponse retryAfterSecs
  | .outcall .unknown retryAfterSecs => backoffDecision context retryAfterSecs .unknownFailure
  | .operation .blockedBySurvivalPolicy =>
    { action := .skip, reason := .survivalPolicyBlocked }
  | .operation .insufficientCycles => { action := .skip, reason := .insufficientCycles }
  | .operation .missingConfiguration
  | .operation .invalidConfiguration
  | .operation .unauthorized
  | .operation .deterministic =>
    { action := .escalateFault, reason := .nonRetriableOperationFailure }
  | .operation .unknown => backoffDecision context none .unknownFailure

/-- `classify_inference_failure` and `classify_evm_failure`. -/
structure Classifier where
  inference : String → RecoveryFailure
  evm : String → RecoveryFailure

/-- Every error is an unknown failure of a call. -/
def sampleClassifier : Classifier where
  inference _ := .outcall .unknown none
  evm _ := .outcall .unknown none

/-- `classify_failure_for_task`. -/
def Classifier.classifyFailureForTask (classifier : Classifier) (kind : TaskKind)
    (error : String) : RecoveryFailure :=
  match kind with
  | .agentTurn => classifier.inference error
  | .pollInbox => classifier.evm error
  | .checkCycles | .topUpCycles | .reconcile => .operation .unknown

/-- `is_eth_get_logs_failure`. -/
def isEthGetLogsFailure (error : String) : Bool :=
  Text.contains (Text.toAsciiLowercase error) "eth_getlogs"

/-- `recovery_operation_for_task`. -/
def recoveryOperationForTask : TaskKind → RecoveryOperation
  | .agentTurn => .inference
  | .pollInbox => .evmPoll
  | .checkCycles | .topUpCycles | .reconcile => .unknown

/-- `MAX_EVM_RPC_RESPONSE_BYTES` and `EVM_RPC_MAX_RESPONSE_BYTES_POLICY_MAX`. -/
def maxEvmRpcResponseBytes : ℕ := 2 * 1024 * 1024

/-- `recovery_context_for_task_job`. -/
def recoveryContextForTaskJob (store : Store) (job : ScheduledJob)
    (evmRpcMaxResponseBytes nowNs : ℕ) : RecoveryContext where
  operation := recoveryOperationForTask job.kind
  consecutiveFailures := (store.taskRuntime job.kind nowNs).consecutiveFailures
  backoffBaseSecs := 1
  backoffMaxSecs := (store.taskConfig job.kind).maxBackoffSecs
  responseLimit :=
    if job.kind = .pollInbox then some ⟨evmRpcMaxResponseBytes, 256, maxEvmRpcResponseBytes, 2⟩
    else none

/-- `set_evm_rpc_max_response_bytes`. -/
def checkEvmRpcMaxResponseBytes (maxResponseBytes : ℕ) : Except String ℕ :=
  if maxResponseBytes = 0 then .error "evm rpc max_response_bytes must be greater than 0"
  else if maxEvmRpcResponseBytes < maxResponseBytes then
    .error s!"evm rpc max_response_bytes must be <= {maxEvmRpcResponseBytes}"
  else .ok maxResponseBytes

/-- `apply_response_limit_tuning`: the new limit. -/
def applyResponseLimitTuning (operation : RecoveryOperation)
    (adjustment : ResponseLimitAdjustment) : Except String ℕ :=
  if operation = .evmPoll then checkEvmRpcMaxResponseBytes adjustment.toBytes
  else .error "response limit tuning is not supported for this operation"

/-- How a failed job is completed, with the response limit that is set. -/
structure RecoveryPlan where
  status : JobStatus := .failed
  retryAfterSecs : Option ℕ := none
  error : String
  evmRpcMaxResponseBytes : Option ℕ := none

/-- The completion that an action of the policy asks for. -/
def RecoveryDecision.plan (decision : RecoveryDecision) (operation : RecoveryOperation)
    (error : String) : RecoveryPlan :=
  match decision.action with
  | .skip => { status := .skipped, error := error }
  | .retryImmediate => { retryAfterSecs := some 0, error := error }
  | .backoff => { retryAfterSecs := some (decision.backoffSecs.getD 1), error := error }
  | .tuneResponseLimit =>
    match decision.responseLimitAdjustment with
    | none => { error := error ++ "; response limit adjustment missing" }
    | some adjustment =>
      match applyResponseLimitTuning operation adjustment with
      | .error tuneError =>
        { error := error ++ "; response_limit_tune_failed " ++ toString adjustment.fromBytes ++
            "->" ++ toString adjustment.toBytes ++ ": " ++ tuneError }
      | .ok bytes =>
        { retryAfterSecs := some 0, error := error, evmRpcMaxResponseBytes := some bytes }
  | .escalateFault => { error := error }

/-- The completion of a failed job. A poll that failed to read logs waits for the next slot. -/
def Classifier.recoveryPlan (classifier : Classifier) (store : Store) (job : ScheduledJob)
    (error : String) (evmRpcMaxResponseBytes nowNs : ℕ) : RecoveryPlan :=
  let context := recoveryContextForTaskJob store job evmRpcMaxResponseBytes nowNs
  let failure := classifier.classifyFailureForTask job.kind error
  let plan := (decideRecoveryAction failure context).plan context.operation error
  if job.kind = .pollInbox ∧ isEthGetLogsFailure error = true then
    { plan with status := .skipped, retryAfterSecs := none }
  else plan

end Automaton.Agent
