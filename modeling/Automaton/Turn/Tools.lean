import Automaton.Agent.ToolSequence
import Automaton.Library.BTreeMap
import Automaton.Library.Machine
import Automaton.Library.Text
import Automaton.Turn.StateMachine

/-!
# The tool calls of a turn

In each round of a turn the model plans tool calls. Some are suppressed, some are not available to
the turn and some are refused by the sequence validator. The others are executed, and every planned
call has a record in its place.
-/

namespace Automaton.Turn

open Machine
open Automaton.Agent (ToolSequenceValidator)

/-- `ToolCall`. -/
structure ToolCall where
  toolCallId : Option String
  tool : String
  argsJson : String
  deriving DecidableEq, Repr

/-- `ToolCallOutcome`. -/
inductive ToolCallOutcome
  | executed
  | suppressedDedupe
  | suppressedFailureCooldown
  | blockedSequence
  deriving DecidableEq, Repr

/-- `ToolFailureKind`. -/
inductive ToolFailureKind
  | malformedInput
  | outcallFailure
  | internalFailure
  deriving DecidableEq, Repr

/-- `ToolCallRecord`, without the turn, under which it is stored. -/
structure ToolCallRecord where
  tool : String
  argsJson : String
  output : String
  success : Bool
  outcome : ToolCallOutcome
  error : Option String
  failureKind : Option ToolFailureKind
  deriving DecidableEq, Repr

/-- `InferenceToolScope`. -/
inductive InferenceToolScope
  | full
  | coordinationOnly
  | terminal
  deriving DecidableEq, Repr

/-- `InferenceToolScope::as_tag`. -/
def InferenceToolScope.asTag : InferenceToolScope → String
  | .full => "full"
  | .coordinationOnly => "coordination_only"
  | .terminal => "terminal"

/-- `canonicalize_tool_name`. -/
def canonicalizeToolName (name : String) : String := Text.toAsciiLowercase (Text.trim name)

/-- `tool_allowed_in_scope`. -/
def toolAllowedInScope (tool : String) : InferenceToolScope → Bool
  | .full => true
  | .coordinationOnly => canonicalizeToolName tool ∈ ["think", "journal", "remember", "recall",
      "memory_stats", "forget", "post_room_message", "list_peers", "set_goal", "list_goals",
      "update_goal", "create_plan", "get_plan", "advance_plan_step", "list_plans",
      "schedule_follow_up"]
  | .terminal => canonicalizeToolName tool ∈ ["think", "journal", "recall", "send_eth"]

/-- `normalize_tool_call_ids`. -/
def normalizeToolCallIds (calls : List ToolCall) (roundIndex : ℕ) : List ToolCall :=
  calls.mapIdx fun toolIndex call => { call with
    toolCallId := some (((call.toolCallId.map Text.trim).filter (· ≠ "")).getD
      ("round-" ++ toString roundIndex ++ "-tool-" ++ toString toolIndex))
    tool := canonicalizeToolName call.tool }

/-- `AutonomySuppressionReason`. -/
inductive AutonomySuppressionReason
  | dedupe (ageSecs : ℕ)
  | failureCooldown (remainingSecs : ℕ) (normalizedError : String) (repeatCount : ℕ)
  | consecutiveDegradeCap (consecutiveDegradeCount : ℕ) (errorClass : String)
  deriving DecidableEq, Repr

/-- `SuppressedAutonomyToolCall`, without the call. -/
structure SuppressedToolCall where
  index : ℕ
  reason : AutonomySuppressionReason
  deriving DecidableEq, Repr

/-- `PlannedToolCallExecution`, where the suppressed calls have their reason. -/
inductive PlannedToolCallExecution
  | execute
  | suppressed (reason : AutonomySuppressionReason)
  | sequenceBlocked (reason : String)
  | runtimeRestricted (reason : String)
  deriving DecidableEq, Repr

/-- `suppress_autonomy_tool_calls`, where it is known for which calls a recent success or a cooldown
is stored. -/
def suppressAutonomyToolCalls (verdict : ToolCall → Option AutonomySuppressionReason)
    (calls : List ToolCall) : List SuppressedToolCall :=
  calls.zipIdx.filterMap fun (call, index) => (verdict call).map fun reason => ⟨index, reason⟩

/-- `ConsecutiveDegradeCapState`. -/
structure ConsecutiveDegradeCapState where
  consecutiveDegradeCount : ℕ
  errorClass : String
  deriving DecidableEq, Repr

/-- The calls of tools that have failed too often in a row in this turn. -/
def capSuppressedCalls (caps : BTreeMap String ConsecutiveDegradeCapState)
    (suppressed : List SuppressedToolCall) (calls : List ToolCall) : List SuppressedToolCall :=
  calls.zipIdx.filterMap fun (call, index) =>
    if suppressed.any (·.index = index) then none
    else caps[call.tool]?.map fun cap =>
      ⟨index, .consecutiveDegradeCap cap.consecutiveDegradeCount cap.errorClass⟩

/-- What is done with a call that is not suppressed. -/
def planOpenCall (scope : InferenceToolScope) (validator : ToolSequenceValidator)
    (call : ToolCall) : PlannedToolCallExecution × ToolSequenceValidator :=
  if !toolAllowedInScope call.tool scope then
    (.runtimeRestricted ("tool `" ++ call.tool ++
      "` is not available while autonomy_tool_scope=" ++ scope.asTag), validator)
  else
    match validator.validateNext call.tool with
    | (.ok (), next) => (.execute, next)
    | (.error reason, next) => (.sequenceBlocked reason, next)

/-- What is done with each call of a round, and the suppressed calls that were not among them. -/
def planCalls (scope : InferenceToolScope) :
    ToolSequenceValidator → List SuppressedToolCall → List (ToolCall × ℕ) →
    List PlannedToolCallExecution × List SuppressedToolCall × ToolSequenceValidator
  | validator, suppressed, [] => ([], suppressed, validator)
  | validator, entry :: suppressed, (call, index) :: calls =>
    if entry.index = index then
      let (planned, rest) := planCalls scope validator suppressed calls
      (.suppressed entry.reason :: planned, rest)
    else
      let (execution, next) := planOpenCall scope validator call
      let (planned, rest) := planCalls scope next (entry :: suppressed) calls
      (execution :: planned, rest)
  | validator, [], (call, _) :: calls =>
    let (execution, next) := planOpenCall scope validator call
    let (planned, rest) := planCalls scope next [] calls
    (execution :: planned, rest)

/-- `sanitize_preview`. -/
def sanitizePreview (text : String) (maxChars : ℕ) : String :=
  let compact := " ".intercalate (((text.toList.splitOnP Text.isWhitespace).filter
    (· ≠ [])).map String.ofList)
  if compact.length ≤ maxChars then compact
  else String.ofList (compact.toList.take maxChars) ++ "..."

/-- The record of a call that was not executed. -/
def syntheticRecord (call : ToolCall) (output : String) (outcome : ToolCallOutcome)
    (error : Option String) : ToolCallRecord where
  tool := call.tool
  argsJson := call.argsJson
  output := output
  success := false
  outcome := outcome
  error := error
  failureKind := none

/-- `synthetic_dedupe_suppressed_tool_record`, `synthetic_failure_suppressed_tool_record` and
`synthetic_consecutive_degrade_cap_tool_record`. -/
def suppressedRecord (dedupeWindowSecs : ℕ) (call : ToolCall) :
    AutonomySuppressionReason → ToolCallRecord
  | .dedupe ageSecs => syntheticRecord call
      ("skipped due to freshness dedupe: last success " ++ toString ageSecs ++
        " seconds ago within " ++ toString dedupeWindowSecs ++ " second window")
      .suppressedDedupe none
  | .failureCooldown remainingSecs normalizedError repeatCount => syntheticRecord call
      ("suppressed due to repeated failure cooldown: repeat_count=" ++ toString repeatCount ++
        " remaining_secs=" ++ toString remainingSecs ++ " last_error=" ++
        sanitizePreview normalizedError 180)
      .suppressedFailureCooldown none
  | .consecutiveDegradeCap count errorClass => syntheticRecord call
      ("suppressed due to repeated failure cooldown: consecutive_degrade_count=" ++
        toString count ++ " error_class=" ++ sanitizePreview errorClass 120)
      .suppressedFailureCooldown none

/-- The prefix of the errors of the sequence validator. -/
def toolSequenceValidatorBlockPrefix : String := "tool sequence validator blocked"

/-- `synthetic_sequence_blocked_tool_record`. -/
def sequenceBlockedRecord (call : ToolCall) (reason : String) : ToolCallRecord :=
  let message := toolSequenceValidatorBlockPrefix ++ ": " ++ reason
  syntheticRecord call message .blockedSequence (some message)

/-- `synthetic_runtime_restricted_tool_record`. -/
def runtimeRestrictedRecord (call : ToolCall) (reason : String) : ToolCallRecord :=
  let message := "autonomy tool scope blocked: " ++ reason
  syntheticRecord call message .blockedSequence (some message)

/-- The record of a planned call that was not executed. -/
def PlannedToolCallExecution.record (dedupeWindowSecs : ℕ) (call : ToolCall) :
    PlannedToolCallExecution → ToolCallRecord
  | .execute => syntheticRecord call "" .executed none
  | .suppressed reason => suppressedRecord dedupeWindowSecs call reason
  | .sequenceBlocked reason => sequenceBlockedRecord call reason
  | .runtimeRestricted reason => runtimeRestrictedRecord call reason

/-- The records of a round, one for each planned call, or the error when those of the executed calls
do not fit. -/
def roundRecords (dedupeWindowSecs : ℕ) :
    List ToolCall → List PlannedToolCallExecution → List ToolCallRecord →
    Except String (List ToolCallRecord)
  | _ :: calls, .execute :: planned, record :: executed =>
    (roundRecords dedupeWindowSecs calls planned executed).map (record :: ·)
  | _ :: _, .execute :: _, [] => .error "tool execution record mismatch: missing executed record"
  | call :: calls, execution :: planned, executed =>
    (roundRecords dedupeWindowSecs calls planned executed).map
      (execution.record dedupeWindowSecs call :: ·)
  | _, _, [] => .ok []
  | _, _, _ :: _ => .error "tool execution record mismatch: unexpected extra tool record"

/-- `is_executed_failure`. -/
def isExecutedFailure (record : ToolCallRecord) : Bool :=
  record.outcome = .executed && !record.success

/-- `is_sequence_validator_block`. -/
def isSequenceValidatorBlock (record : ToolCallRecord) : Bool :=
  record.outcome = .blockedSequence ||
    record.error.any fun error => (Text.stripPrefix? toolSequenceValidatorBlockPrefix error).isSome

/-- A text starts with another one. -/
def startsWith (start text : String) : Bool := (Text.stripPrefix? start text).isSome

/-- `is_http_fetch_recoverable_failure`. -/
def isHttpFetchRecoverableFailure (record : ToolCallRecord) : Bool :=
  (record.tool = "http_fetch" || record.tool = "market_fetch") &&
    record.error.any fun error =>
      let normalized := Text.toAsciiLowercase (Text.trim error)
      startsWith "json_path extraction failed:" normalized ||
        startsWith "regex extraction failed:" normalized || startsWith "http 4" normalized ||
        Text.contains normalized "http body exceeds size limit" ||
        Text.contains normalized "response exceeded max_response_bytes"

/-- `is_remember_capacity_failure`. -/
def isRememberCapacityFailure (record : ToolCallRecord) : Bool :=
  record.tool = "remember" &&
    record.error.any fun error =>
      startsWith "memory full:" (Text.toAsciiLowercase (Text.trim error))

/-- `should_degrade_tool_failures_for_autonomy`. -/
def shouldDegradeToolFailuresForAutonomy (failures : List ToolCallRecord)
    (hasExternalInput : Bool) : Bool :=
  !hasExternalInput && failures ≠ [] && failures.all fun record =>
    isHttpFetchRecoverableFailure record || isRememberCapacityFailure record ||
      record.failureKind = some .malformedInput

/-- `AUTONOMY_CONSECUTIVE_DEGRADE_CAP`. -/
def autonomyConsecutiveDegradeCap : ℕ := 3

/-- How often kinds of failures came in a row, and the tools that are capped for it. -/
structure DegradeTracking where
  counts : BTreeMap String ℕ
  capByTool : BTreeMap String ConsecutiveDegradeCapState

/-- `clear_consecutive_degrade_tracking_for_tool`. -/
def DegradeTracking.clear (tracking : DegradeTracking) (tool : String) : DegradeTracking where
  counts := tracking.counts.filter fun fingerprint _ =>
    !startsWith (canonicalizeToolName tool ++ ":") fingerprint
  capByTool := tracking.capByTool.erase (canonicalizeToolName tool)

/-- One kind of failure is counted. -/
def DegradeTracking.count (tracking : DegradeTracking) (fingerprint tool errorClass : String) :
    DegradeTracking :=
  let next := saturatingAdd u32Max (tracking.counts.getD fingerprint 0) 1
  { counts := tracking.counts.insert fingerprint next
    capByTool :=
      if autonomyConsecutiveDegradeCap ≤ next ∧ tracking.capByTool[tool]?.isNone then
        tracking.capByTool.insert tool ⟨next, errorClass⟩
      else tracking.capByTool }

/-- `bump_consecutive_degrade_counts`, where `classify` tells the kind of a failure, its tool and
its class. -/
def DegradeTracking.bump (classify : ToolCallRecord → Option (String × String × String))
    (tracking : DegradeTracking) (failures : List ToolCallRecord) : DegradeTracking :=
  let observed := (failures.filterMap classify).foldl
    (fun observed (fingerprint, entry) => observed.insertIfNew fingerprint entry)
    (∅ : BTreeMap String (String × String))
  observed.toList.foldl
    (fun tracking (fingerprint, tool, errorClass) =>
      tracking.count fingerprint tool errorClass)
    { tracking with counts := tracking.counts.filter fun fingerprint _ =>
        observed.contains fingerprint }

/-- `ToolPolicy`. -/
structure ToolPolicy where
  enabled : Bool
  allowedStates : List AgentState
  deriving DecidableEq, Repr

/-- The tools that may also be called while the turn infers. -/
def inferringTools : List String := ["think", "journal", "evm_read", "list_peers", "remember",
  "recall", "memory_stats", "sql_query", "forget", "top_up_status", "list_strategy_templates",
  "describe_strategy_action", "simulate_strategy_action", "get_strategy_outcomes", "list_goals",
  "get_plan", "list_plans"]

/-- The tools that may only be called while the turn executes actions. -/
def executingTools : List String := ["sign_message", "broadcast_transaction", "send_eth",
  "pay_peer", "reproduce", "set_min_prices", "http_fetch", "web_search", "market_fetch",
  "update_prompt_layer", "trigger_top_up", "register_strategy", "execute_strategy_action",
  "canister_call", "set_welcome_message", "post_room_message", "set_goal", "update_goal",
  "create_plan", "advance_plan_step", "schedule_follow_up"]

/-- `ToolManager::new` and `policy_for`. -/
def policyFor (webSearchEnabled : Bool) (tool : String) : Option ToolPolicy :=
  let enabled := tool ∉ ["top_up_status", "trigger_top_up"] &&
    (tool ≠ "web_search" || webSearchEnabled)
  if tool ∈ inferringTools then some ⟨enabled, [.executingActions, .inferring]⟩
  else if tool ∈ executingTools then some ⟨enabled, [.executingActions]⟩
  else none

/-- A call is dispatched. -/
def policyAllows (webSearchEnabled : Bool) (state : AgentState) (tool : String) : Bool :=
  (policyFor webSearchEnabled tool).any fun policy =>
    policy.enabled && state ∈ policy.allowedStates

/-- `unknown_tool_record` and `blocked_tool_record`. -/
def refusedRecord (call : ToolCall) (output error : String) : ToolCallRecord where
  tool := call.tool
  argsJson := call.argsJson
  output := output
  success := false
  outcome := .executed
  error := some error
  failureKind := some .internalFailure

/-- `record_for_result`. -/
def recordForResult (classifyKind : String → String → ToolFailureKind) (call : ToolCall) :
    Except String String → ToolCallRecord
  | .ok output => ⟨call.tool, call.argsJson, output, true, .executed, none, none⟩
  | .error error => ⟨call.tool, call.argsJson, "tool execution failed", false, .executed,
      some error, some (classifyKind call.tool error)⟩

/-- What `execute_single_call_record` does before it dispatches a call. -/
def admitCall (webSearchEnabled : Bool) (state : AgentState) (call : ToolCall) :
    Except ToolCallRecord ToolCall :=
  let normalized := { call with tool := canonicalizeToolName call.tool }
  match policyFor webSearchEnabled normalized.tool with
  | none => .error (refusedRecord normalized "unknown tool" "unknown tool")
  | some policy =>
    if !policy.enabled || state ∉ policy.allowedStates then
      .error (refusedRecord normalized "tool blocked by policy" "tool blocked")
    else .ok normalized

/-- `is_parallel_read_only_tool`. -/
def isParallelReadOnlyTool (tool : String) : Bool :=
  tool ∈ ["think", "recall", "memory_stats", "sql_query", "list_goals", "list_plans", "get_plan",
    "list_strategy_templates", "describe_strategy_action", "get_strategy_outcomes", "evm_read",
    "http_fetch", "web_search", "market_fetch"]

/-- `ParallelBatchState`. -/
structure ParallelBatchState where
  hasEvmRead : Bool
  hasHttpLikeFetch : Bool

/-- The tools that fetch from the web. -/
def isHttpLikeFetch (tool : String) : Bool := tool ∈ ["http_fetch", "web_search", "market_fetch"]

/-- `can_add_to_parallel_batch`. -/
def ParallelBatchState.canAdd (state : ParallelBatchState) (tool : String) : Bool :=
  isParallelReadOnlyTool tool && !(tool = "evm_read" && state.hasEvmRead) &&
    !(isHttpLikeFetch tool && state.hasHttpLikeFetch)

/-- `mark_tool_in_parallel_batch`. -/
def ParallelBatchState.mark (state : ParallelBatchState) (tool : String) : ParallelBatchState where
  hasEvmRead := state.hasEvmRead || tool = "evm_read"
  hasHttpLikeFetch := state.hasHttpLikeFetch || isHttpLikeFetch tool

/-- `find_parallel_batch_end`, counted from the first call. -/
def parallelBatchLength : ParallelBatchState → List ToolCall → ℕ
  | _, [] => 0
  | state, call :: calls =>
    if state.canAdd call.tool then parallelBatchLength (state.mark call.tool) calls + 1 else 0

/-- What is executed at once: one call, or two of them. -/
inductive Wave
  | single (call : ToolCall)
  | pair (first second : ToolCall)

/-- The calls of a batch two by two, and the last one alone when their number is odd. -/
def pairUp : List ToolCall → List Wave
  | first :: second :: calls => .pair first second :: pairUp calls
  | [call] => [.single call]
  | [] => []

/-- How `execute_actions_with_broadcaster_and_history` goes through the calls, of which the first
ones may have been executed. -/
def waves : ℕ → List ToolCall → List Wave
  | skip + 1, _ :: calls => waves skip calls
  | 0, call :: calls =>
    let length := parallelBatchLength ⟨false, false⟩ (call :: calls)
    if 2 ≤ length then pairUp ((call :: calls).take length) ++ waves (length - 1) calls
    else .single call :: waves 0 calls
  | _, [] => []

end Automaton.Turn
