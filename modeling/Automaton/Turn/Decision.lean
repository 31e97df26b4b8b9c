import Automaton.Turn.Tools

/-!
# The decision of a turn

A turn without a message ends in a decision, which the model gives as an envelope, or which is made
up when there is none. A shortage of the reserves restricts the tools of the turn and shapes the
decision.
-/

namespace Automaton.Turn

open Machine

/-- `ScheduledTurnTrigger`. -/
inductive ScheduledTurnTrigger
  | periodic
  | inferenceProxyResume
  | planContinuation
  deriving DecidableEq, Repr

/-- `DecisionTrigger`. -/
inductive DecisionTrigger
  | scheduledReview
  | inboxMessage
  | lowRunway
  | positionMaintenance
  | recoveryFollowUp
  | planContinuation
  deriving DecidableEq, Repr

/-- `DecisionTrigger::as_wire_name`. -/
def DecisionTrigger.asWireName : DecisionTrigger → String
  | .scheduledReview => "ScheduledReview"
  | .inboxMessage => "InboxMessage"
  | .lowRunway => "LowRunway"
  | .positionMaintenance => "PositionMaintenance"
  | .recoveryFollowUp => "RecoveryFollowUp"
  | .planContinuation => "PlanContinuation"

/-- `decision_trigger_for_turn`. -/
def decisionTriggerForTurn (trigger : ScheduledTurnTrigger) (hasExternalInput : Bool) :
    DecisionTrigger :=
  if hasExternalInput then .inboxMessage
  else
    match trigger with
    | .periodic => .scheduledReview
    | .inferenceProxyResume => .recoveryFollowUp
    | .planContinuation => .planContinuation

/-- `EscalationClass`. -/
inductive EscalationClass
  | missingPolicy (what : String)
  | outOfAuthority (what : String)
  | capabilityGap (what : String)
  | safetyConflict (what : String)
  | repeatedFailure (strategy : String) (failureCount : ℕ)
  deriving DecidableEq, Repr

/-- `DecisionEnvelopeOutcome` and `DecisionOutcome`, which have the same cases. -/
inductive DecisionOutcome
  | executed (actionSummary : String)
  | simulated (actionSummary : String)
  | noOp (reason : String)
  | deferred (reason : String)
  | escalated (gap : EscalationClass)
  deriving DecidableEq, Repr

/-- The outcome is that nothing was done. -/
def DecisionOutcome.isNoOp : DecisionOutcome → Bool
  | .noOp _ => true
  | _ => false

/-- `AutonomyDecisionEnvelope`, without the fields that no record keeps. -/
structure AutonomyDecisionEnvelope where
  trigger : DecisionTrigger
  candidatesSummary : String
  outcome : DecisionOutcome
  explanation : String
  deriving DecidableEq, Repr

/-- The text of an outcome that may not be empty, and the error when it is. -/
def DecisionOutcome.required : DecisionOutcome → String × String
  | .executed actionSummary | .simulated actionSummary =>
    (actionSummary, "decision envelope action_summary must be non-empty")
  | .noOp reason | .deferred reason => (reason, "decision envelope reason must be non-empty")
  | .escalated (.repeatedFailure strategy _) =>
    (strategy, "decision envelope escalation strategy must be non-empty")
  | .escalated (.missingPolicy what) | .escalated (.outOfAuthority what)
  | .escalated (.capabilityGap what) | .escalated (.safetyConflict what) =>
    (what, "decision envelope escalation detail must be non-empty")

/-- `validate_decision_envelope`. -/
def validateDecisionEnvelope (envelope : AutonomyDecisionEnvelope)
    (expectedTrigger : DecisionTrigger) : Except String Unit :=
  if envelope.trigger ≠ expectedTrigger then
    .error ("decision envelope trigger mismatch: expected " ++ expectedTrigger.asWireName ++
      " got " ++ envelope.trigger.asWireName)
  else if Text.trim envelope.candidatesSummary = "" then
    .error "decision envelope candidates_summary must be non-empty"
  else if Text.trim envelope.explanation = "" then
    .error "decision envelope explanation must be non-empty"
  else if Text.trim envelope.outcome.required.1 = "" then .error envelope.outcome.required.2
  else .ok ()

/-- `split_once`. -/
def splitOnce (separator : Char) : List Char → Option (List Char × List Char)
  | [] => none
  | c :: rest =>
    if c = separator then some ([], rest)
    else (splitOnce separator rest).map fun (first, second) => (c :: first, second)

/-- `unwrap_markdown_code_fence`. -/
def unwrapMarkdownCodeFence (raw : String) : String :=
  let trimmed := Text.trim raw
  match Text.stripPrefix? "```" trimmed with
  | none => trimmed
  | some withoutOpening =>
    let reversed := String.ofList (Text.trim withoutOpening).toList.reverse
    match Text.stripPrefix? "```" reversed with
    | none => trimmed
    | some withoutClosing =>
      let fencedBody := Text.trim (String.ofList withoutClosing.toList.reverse)
      match splitOnce '\n' fencedBody.toList with
      | some (firstLine, rest) =>
        if '{' ∉ firstLine ∧ '[' ∉ firstLine then Text.trim (String.ofList rest) else fencedBody
      | none => fencedBody

/-- `parse_autonomy_decision_envelope`, where `decode` reads an envelope from JSON. -/
def parseAutonomyDecisionEnvelope (decode : String → Except String AutonomyDecisionEnvelope)
    (raw : String) (expectedTrigger : DecisionTrigger) : Except String AutonomyDecisionEnvelope := do
  let trimmed := Text.trim (unwrapMarkdownCodeFence raw)
  if trimmed = "" then throw "decision envelope output was empty"
  let envelope ← decode trimmed
  validateDecisionEnvelope envelope expectedTrigger
  return envelope

/-- `ReserveShortfall`. -/
structure ReserveShortfall where
  resourceLabel : String
  unitLabel : String
  actualDisplay : String
  minimumDisplay : String
  deriving DecidableEq, Repr

/-- `ReserveShortfall::render`. -/
def ReserveShortfall.render (shortfall : ReserveShortfall) : String :=
  shortfall.resourceLabel ++ ": " ++ shortfall.actualDisplay ++ " " ++ shortfall.unitLabel ++
    " < " ++ shortfall.minimumDisplay ++ " " ++ shortfall.unitLabel ++ " minimum"

/-- `AutonomyRuntimeConstraint`. -/
structure AutonomyRuntimeConstraint where
  machineReason : String
  toolScope : InferenceToolScope
  coordinationActionsAllowed : Bool
  shortfalls : List ReserveShortfall
  deriving DecidableEq, Repr

namespace AutonomyRuntimeConstraint

variable (constraint : AutonomyRuntimeConstraint)

/-- `checked_reserves_summary`. -/
def checkedReservesSummary (_ : AutonomyRuntimeConstraint) : String :=
  "checked reserves against policy minimums"

/-- `explanation`. -/
def explanation : String :=
  (if constraint.coordinationActionsAllowed then
    "capital-touching actions blocked by reserve shortfall; coordination-only mode active."
  else
    "capital-touching actions blocked by reserve shortfall; no safe peer coordination lane is " ++
      "available.") ++ " " ++ " ".intercalate (constraint.shortfalls.map ReserveShortfall.render)

/-- `no_op_envelope`. -/
def noOpEnvelope (trigger : DecisionTrigger) : AutonomyDecisionEnvelope where
  trigger := trigger
  candidatesSummary := constraint.checkedReservesSummary
  outcome := .noOp constraint.machineReason
  explanation := constraint.explanation

end AutonomyRuntimeConstraint

/-- `autonomy_runtime_constraint_for_turn`, where the reserves that are too small are known. -/
def autonomyRuntimeConstraintForTurn (trigger : ScheduledTurnTrigger) (hasExternalInput : Bool)
    (shortfalls : List ReserveShortfall) (coordinationActionsAllowed : Bool) :
    Option AutonomyRuntimeConstraint :=
  if trigger ≠ .periodic ∨ hasExternalInput ∨ shortfalls = [] then none
  else some ⟨"reserve_insufficient", .coordinationOnly, coordinationActionsAllowed, shortfalls⟩

/-- `autonomy_exploration_state_for_turn`, of which the decision uses whether it is active. -/
def explorationActive (trigger : ScheduledTurnTrigger) (hasExternalInput : Bool)
    (constraint : Option AutonomyRuntimeConstraint) : Bool :=
  trigger = .periodic && !hasExternalInput && constraint.isNone

/-- `InferenceDeferredReason`. -/
inductive InferenceDeferredReason
  | proxyCallbackPending
  | survivalPolicy
  | lowCycles
  deriving DecidableEq, Repr

/-- `autonomy_noop_envelope_for_inference_defer`. -/
def autonomyNoopEnvelopeForInferenceDefer (trigger : DecisionTrigger) :
    InferenceDeferredReason → Option AutonomyDecisionEnvelope
  | .survivalPolicy => some {
      trigger := trigger
      candidatesSummary := "autonomy turn deferred before decision generation"
      outcome := .noOp "inference_deferred_survival_policy"
      explanation := "autonomy inference deferred by survival policy before decision generation" }
  | .lowCycles => some {
      trigger := trigger
      candidatesSummary := "autonomy turn deferred before decision generation"
      outcome := .noOp "inference_deferred_low_cycles"
      explanation := "autonomy inference deferred because liquid cycles were insufficient" }
  | .proxyCallbackPending => none

/-- How `autonomy_noop_envelope_for_inference_error` tells failures apart. -/
inductive InferenceFailureReason
  | configurationError
  | providerRejected
  | other
  deriving DecidableEq, Repr

/-- The reason of the decision that is made up after a failure of inference. -/
def InferenceFailureReason.name : InferenceFailureReason → String
  | .configurationError => "inference_configuration_error"
  | .providerRejected => "inference_provider_rejected"
  | .other => "inference_error"

/-- `autonomy_noop_envelope_for_inference_error`. -/
def autonomyNoopEnvelopeForInferenceError (classify : String → InferenceFailureReason)
    (error : String) (trigger : DecisionTrigger) : AutonomyDecisionEnvelope where
  trigger := trigger
  candidatesSummary := "autonomy turn could not obtain model output"
  outcome := .noOp (classify error).name
  explanation := "autonomy inference failed before decision generation: " ++
    sanitizePreview error 180

/-- `autonomy_noop_envelope_for_provider_rejection_suppression`. -/
def autonomyNoopEnvelopeForProviderRejectionSuppression (trigger : DecisionTrigger)
    (remainingSecs repeatCount : ℕ) : AutonomyDecisionEnvelope where
  trigger := trigger
  candidatesSummary := "autonomy inference suppressed during provider rejection cooldown"
  outcome := .noOp "inference_provider_rejected"
  explanation :=
    "autonomy inference suppressed after repeated provider rejection failures: repeat_count=" ++
      toString repeatCount ++ " cooldown_remaining_secs=" ++ toString remainingSecs

/-- The envelope after a second answer that is not one. -/
def invalidDecisionEnvelope (trigger : DecisionTrigger) (retryError : String) :
    AutonomyDecisionEnvelope where
  trigger := trigger
  candidatesSummary := "invalid decision envelope after two attempts"
  outcome := .noOp "invalid_decision_shape"
  explanation := "decision envelope invalid after two attempts: " ++ sanitizePreview retryError 180

/-- `exploration_action_summary_from_tool_records`. -/
def explorationActionSummaryFromToolRecords (records : List ToolCallRecord) : Option String :=
  (records.reverse.find? fun record =>
    record.success && record.outcome = .executed && record.tool ≠ "journal").map (·.tool)

/-- `normalize_decision_envelope_for_exploration_action`. -/
def normalizeForExplorationAction (envelope : AutonomyDecisionEnvelope) (active : Bool)
    (records : List ToolCallRecord) : AutonomyDecisionEnvelope :=
  if !active || !envelope.outcome.isNoOp then envelope
  else
    match explorationActionSummaryFromToolRecords records with
    | none => envelope
    | some actionSummary => { envelope with
        outcome := .executed actionSummary
        explanation := envelope.explanation ++ " Healthy-runway exploration completed `" ++
          actionSummary ++ "` successfully, so the terminal outcome was normalized from NoOp to " ++
          "Executed." }

/-- `normalize_decision_envelope_for_runtime_constraint`. -/
def normalizeForRuntimeConstraint (envelope : AutonomyDecisionEnvelope) :
    Option AutonomyRuntimeConstraint → AutonomyDecisionEnvelope
  | none => envelope
  | some constraint =>
    if envelope.outcome.isNoOp then
      { envelope with
        outcome := .noOp constraint.machineReason
        candidatesSummary := constraint.checkedReservesSummary
        explanation := constraint.explanation }
    else envelope

/-- `DecisionRecord`, under its turn. -/
structure DecisionRecord where
  timestampNs : ℕ
  trigger : DecisionTrigger
  outcome : DecisionOutcome
  policyVersion : ℕ
  candidatesSummary : String
  explanation : String
  deriving DecidableEq, Repr

/-- `decision_record_from_envelope`. -/
def decisionRecordFromEnvelope (timestampNs policyVersion : ℕ)
    (envelope : AutonomyDecisionEnvelope) : DecisionRecord where
  timestampNs := timestampNs
  trigger := envelope.trigger
  outcome := envelope.outcome
  policyVersion := policyVersion
  candidatesSummary := sanitizePreview envelope.candidatesSummary 280
  explanation := sanitizePreview envelope.explanation 280

end Automaton.Turn
